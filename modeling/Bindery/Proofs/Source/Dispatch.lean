import Bindery.Proofs.Catalog
import Bindery.Proofs.Generate.Pruning
import Bindery.Proofs.Manifest.Account
/-!
From a subject kind to the lines of a body. The kind of a function is the one that it states, or else
that of its type, or else the builtin one for objects, and the catalog says what stands under that
name. The kind decides whether the function takes a handle, and its family which entry point of the
bridge the body calls. Everything else of a body is the same for all families: the arguments are packed
one by one, the bridge is called once, and the result is returned.
-/

namespace Bindery

/-! ### The lines of a body -/

/-- The entry point of the bridge that the bodies of a family call. -/
def DispatchFamily.entryPoint? : DispatchFamily → Option String
  | .methodTable => some "DomBind_InvokeMethod"
  | .singleton => some "DomBind_InvokeSingleton"
  | .eventRouter => some "DomBind_RouteEvent"
  | .custom => none

namespace FunctionBinding

/-- The return of a body whose handle is stale. -/
def earlyReturn (f : FunctionBinding) : String :=
  match CType.fallback? f.returnType with
  | some value => "        return " ++ value ++ ";"
  | none => "        return;"

/-- What a body does with its handle: a method table resolves it and returns early when it is stale,
the other families only use it. -/
def handleLines (f : FunctionBinding) : List String :=
  match f.handleParam?, f.family with
  | none, _ => []
  | some handle, .methodTable =>
    ["    void* instance = DomBind_ResolveHandle(" ++ handle ++ ");",
      "    if (instance == NULL) \x7b",
      f.earlyReturn,
      "    \x7d"]
  | some handle, _ => ["    (void)" ++ handle ++ ";"]

/-- The declaration of the array of the arguments, and one assignment for each of them. -/
def argumentLines (f : FunctionBinding) : List String :=
  if f.params = [] then []
  else
    ("    DomBind_Value args[" ++ toString f.params.length ++ "];") ::
      (List.finRange f.params.length).map fun i =>
        "    args[" ++ toString i.val ++ "] = " ++ CType.pack f.params[i].type f.params[i].name ++ ";"

/-- What the call says before it names the function: a method table is told the object. -/
def target (f : FunctionBinding) : String :=
  match f.family with
  | .methodTable => (if f.handleParam?.isSome then "instance" else "NULL") ++ ", "
  | _ => ""

/-- The call of an entry point of the bridge. -/
def bridgeCall (f : FunctionBinding) (entryPoint : String) : String :=
  entryPoint ++ "(" ++ f.target ++ "\"" ++ f.owner ++ "\", \"" ++ f.name ++ "\", " ++
    (if f.params = [] then "NULL" else "args") ++ ", " ++ toString f.params.length ++ ");"

/-- The call of the bridge, and the return of its result if there is one. -/
def callLines (f : FunctionBinding) (entryPoint : String) : List String :=
  if f.returnType.isVoid then ["    " ++ f.bridgeCall entryPoint]
  else ["    DomBind_Value result = " ++ f.bridgeCall entryPoint,
    "    return " ++ CType.unpack f.returnType f.returnCType ++ ";"]

/-- The lines of a definition that calls an entry point of the bridge. -/
def linesCalling (f : FunctionBinding) (entryPoint : String) : List String :=
  [f.signature, "\x7b"] ++ f.handleLines ++ f.argumentLines ++ f.callLines entryPoint ++ ["\x7d"]

end FunctionBinding

/-- Whether a statement calls the bridge. -/
def Statement.isCall : Statement → Bool
  | .call .. => true
  | _ => false

namespace Definition

variable {f : FunctionBinding} {d : Definition} {entryPoint : String}

theorem lines_packArgs (f : FunctionBinding) :
    (packArgs f.params).flatMap (·.lines) = f.argumentLines := by
  rw [packArgs, FunctionBinding.argumentLines]
  by_cases h : f.params = []
  · rw [if_pos h, if_pos (List.isEmpty_iff.2 h)]
    rfl
  · rw [if_neg h, if_neg (mt List.isEmpty_iff.1 h), List.flatMap_cons]
    have hassign : (f.params.mapIdx fun i p => Statement.assignArg i (CType.pack p.type p.name)) =
        (List.finRange f.params.length).map fun i =>
          .assignArg i.val (CType.pack f.params[i].type f.params[i].name) :=
      List.ext_getElem (by simp) (by simp)
    rw [hassign, List.flatMap_map]
    exact congrArg _ List.map_eq_flatMap.symm

/-- The call of a body is the one that the family's entry point and target spell. -/
theorem lines_callBridge {bridge : BridgeCall} (h : bridge.opening = entryPoint ++ "(" ++ f.target) :
    (callBridge f bridge).flatMap (·.lines) = f.callLines entryPoint := by
  have hcount : (f.params.length = 0) = (f.params = []) := propext List.length_eq_zero_iff
  have hkeep (s : String) :
      "    " ++ ("DomBind_Value result = " ++ s) = "    DomBind_Value result = " ++ s := by
    rw [← String.append_assoc]
    rfl
  rw [callBridge, FunctionBinding.callLines]
  split <;> simp [Statement.lines, FunctionBinding.bridgeCall, h, hcount, hkeep, String.append_assoc]

theorem opening_invokeMethod (target : String) :
    (BridgeCall.invokeMethod target).opening = "DomBind_InvokeMethod" ++ "(" ++ (target ++ ", ") := by
  have hname : "DomBind_InvokeMethod" ++ "(" = "DomBind_InvokeMethod(" := by decide
  rw [hname, ← String.append_assoc]
  rfl

/-- The call through a method table, of the object or of none. -/
theorem lines_methodTable (hfamily : f.family = .methodTable) :
    (methodTable f).lines = f.linesCalling "DomBind_InvokeMethod" := by
  have hcall (target : String) (h : f.target = target ++ ", ") :
      (callBridge f (.invokeMethod target)).flatMap (·.lines) =
        f.callLines "DomBind_InvokeMethod" :=
    lines_callBridge (h ▸ opening_invokeMethod target)
  cases hhandle : f.handleParam? with
  | none =>
    have htarget : f.target = "NULL" ++ ", " := by
      rw [FunctionBinding.target, hfamily, hhandle]
      rfl
    simp only [lines, methodTable, FunctionBinding.linesCalling, FunctionBinding.handleLines, hhandle,
      List.flatMap_append, lines_packArgs, hcall "NULL" htarget, List.append_nil]
    simp only [List.append_assoc]
  | some handle =>
    have htarget : f.target = "instance" ++ ", " := by
      rw [FunctionBinding.target, hfamily, hhandle]
      rfl
    have hhandleLines :
        [Statement.resolve handle, .returnIfStale (CType.fallback? f.returnType)].flatMap (·.lines) =
          f.handleLines := by
      rw [FunctionBinding.handleLines, hhandle, hfamily]
      rfl
    simp only [lines, methodTable, FunctionBinding.linesCalling, hhandle,
      List.flatMap_append, hhandleLines, lines_packArgs, hcall "instance" htarget]
    simp only [List.append_assoc]

/-- The call that does not look at the handle. -/
theorem lines_forwarding {bridge : BridgeCall} (hfamily : f.family ≠ .methodTable)
    (h : bridge.opening = entryPoint ++ "(") :
    (forwarding f bridge).lines = f.linesCalling entryPoint := by
  have htarget : f.target = "" := by
    rw [FunctionBinding.target]
    split
    · contradiction
    · rfl
  have hhandleLines :
      (f.handleParam?.toList.map Statement.discard).flatMap (·.lines) = f.handleLines := by
    rw [FunctionBinding.handleLines]
    cases f.handleParam? with
    | none => rfl
    | some handle =>
      split
      · contradiction
      · contradiction
      · rename_i heq _
        cases heq
        rfl
  have hcall : (callBridge f bridge).flatMap (·.lines) = f.callLines entryPoint :=
    lines_callBridge (by rw [h, htarget, String.append_empty])
  simp only [lines, forwarding, FunctionBinding.linesCalling, List.flatMap_append, hhandleLines,
    lines_packArgs, hcall, List.append_assoc]

/-- A body of a builtin family has the lines that its entry point and its handle ask for. -/
theorem exists_lines (h : f.family.entryPoint? = some entryPoint) :
    ∃ d, ofBinding? f = some d ∧ d.lines = f.linesCalling entryPoint := by
  rw [ofBinding?]
  cases hfamily : f.family with
  | methodTable =>
    rw [hfamily] at h
    cases h
    exact ⟨_, rfl, lines_methodTable hfamily⟩
  | singleton =>
    rw [hfamily] at h
    cases h
    exact ⟨_, rfl, lines_forwarding (by simp [hfamily]) (by decide)⟩
  | eventRouter =>
    rw [hfamily] at h
    cases h
    exact ⟨_, rfl, lines_forwarding (by simp [hfamily]) (by decide)⟩
  | custom =>
    rw [hfamily] at h
    cases h

/-- Packing the arguments does not call the bridge. -/
theorem calls_packArgs (params : List CParam) : (packArgs params).filter (·.isCall) = [] := by
  rw [packArgs]
  split
  · rfl
  · rw [List.filter_cons_of_neg (by simp [Statement.isCall]), List.mapIdx_eq_zipIdx_map,
      List.filter_map]
    simp [Statement.isCall, Function.comp_def]

theorem calls_callBridge (f : FunctionBinding) (bridge : BridgeCall) :
    (callBridge f bridge).filter (·.isCall) =
      [.call (!f.returnType.isVoid) bridge f.owner f.name f.params.length] := by
  rw [callBridge]
  split
  · rename_i h
    rw [h]
    rfl
  · rename_i h
    rw [Bool.not_eq_true] at h
    rw [h]
    rfl

/-- A body calls the bridge once. -/
theorem calls_length (hd : ofBinding? f = some d) : (d.body.filter (·.isCall)).length = 1 := by
  have hdiscard (handle? : Option String) :
      (handle?.toList.map Statement.discard).filter (·.isCall) = [] := by
    cases handle? <;> rfl
  have hforwarding (bridge : BridgeCall) :
      ((forwarding f bridge).body.filter (·.isCall)).length = 1 := by
    simp only [forwarding, List.filter_append, hdiscard, calls_packArgs, calls_callBridge,
      List.nil_append, List.length_singleton]
  rw [ofBinding?] at hd
  split at hd
  · cases hd
    rw [methodTable]
    cases f.handleParam? with
    | none =>
      simp only [List.filter_append, calls_packArgs, calls_callBridge, List.nil_append,
        List.length_singleton]
    | some handle =>
      have hresolve : [Statement.resolve handle,
          .returnIfStale (CType.fallback? f.returnType)].filter (·.isCall) = [] := rfl
      simp only [List.filter_append, hresolve, calls_packArgs, calls_callBridge, List.nil_append,
        List.length_singleton]
  · cases hd
    exact hforwarding _
  · cases hd
    exact hforwarding _
  · cases hd

end Definition

/-! ### The kind of a function -/

namespace Manifest

variable {types : TypeMap} {catalog : Catalog} {owner : TypeEntry} {fn : FunctionEntry}
  {o : Occurrence} {b : FunctionBinding}

/-- The name of the kind of an occurrence: the one that the function states, or else that of its type,
or else the one for objects. -/
def Occurrence.kindName (o : Occurrence) : String :=
  (o.function.subjectKind?.or o.owner.subjectKind?).getD "Object"

/-- A shape has a handle if and only if it is to take one. -/
theorem handle_of_shapeOf {returnCType : String} {takesHandle : Bool} {ps : List CParam}
    {shape : Shape} (h : shapeOf owner fn returnCType takesHandle ps = .ok shape) :
    shape.handleParam?.isSome = takesHandle := by
  rw [shapeOf] at h
  split at h
  · cases h
    cases takesHandle <;> rfl
  · cases hs : statedShape _ (symbolOf owner fn) takesHandle ps with
    | error fault =>
      rw [hs] at h
      cases h
    | ok stated =>
      rw [hs] at h
      cases h
      obtain ⟨names, -, hlength, rfl⟩ := statedShape_eq_ok hs
      cases takesHandle with
      | false => rfl
      | true =>
        have hne : names ≠ [] := List.ne_nil_of_length_pos (by simp at hlength; omega)
        simpa using hne

/-- What a kind decides about a binding. -/
structure Follows (kind : SubjectKind) (fn : FunctionEntry) (b : FunctionBinding) : Prop where
  subjectKind : b.subjectKind = kind.name
  family : b.family = kind.family
  /-- There is a handle if and only if the kind uses handles and the function is not static. -/
  handle : b.handleParam?.isSome = true ↔ kind.usesHandle = true ∧ fn.isStatic = false
  /-- The parameters besides the handle, and the result, are those of the function. -/
  params : b.params.map (·.type) = fn.paramTypes
  result : b.returnType = fn.returnType

theorem follows_of_bindFunction {ownerKind : SubjectKind} {ctypes : CTypes}
    (h : bindFunction catalog ctypes owner ownerKind fn = .ok b) :
    ∃ kind, functionKind catalog owner ownerKind fn = .ok kind ∧ Follows kind fn b := by
  obtain ⟨kind, _, cParams, shape, hkind, -, -, hparams, hshape, rfl⟩ := bindFunction_eq_ok h
  refine ⟨kind, hkind, rfl, rfl, ?_, ?_, rfl⟩
  · rw [handle_of_shapeOf hshape]
    simp
  · have htypes := congrArg (List.map Prod.snd) (shapeOf_eq_ok hshape)
    simp only [List.map_map, Function.comp_def] at htypes
    rw [htypes, (paramsFrom_eq_ok hparams).1]

/-- The kind of a binding is the one that the catalog has under the name of its occurrence's. -/
theorem follows_of_bound (h : o.bound types catalog = .ok b) :
    ∃ kind, catalog.get? o.kindName = some kind ∧ Follows kind o.function b := by
  rw [Occurrence.bound] at h
  split at h
  · cases h
  · rename_i ownerKind howner
    obtain ⟨kind, hkind, hfollows⟩ := follows_of_bindFunction h
    refine ⟨kind, ?_, hfollows⟩
    rw [functionKind] at hkind
    rw [Occurrence.kindName]
    split at hkind
    · rename_i hnone
      cases hkind
      rw [hnone]
      exact howner
    · rename_i name hname
      rw [hname]
      split at hkind
      · rename_i hget
        cases hkind
        exact hget
      · cases hkind

theorem exists_bound_of_mem (h : b ∈ (build types catalog).manifest.functions) :
    ∃ o ∈ occurrences types catalog, o.bound types catalog = .ok b := by
  have hb := mem_accepted_of_mem h
  rw [← bindable_snd] at hb
  obtain ⟨⟨o, b⟩, hmem, rfl⟩ := List.mem_map.1 hb
  exact ⟨o, mem_bindable.1 hmem⟩

end Manifest

/-! ### From declarations to lines -/

namespace CApi

/-- The generator that one with nothing set becomes by declarations, accepted or refused. -/
def declared (ks : List SubjectKind) : CApi := ({} : CApi).afterDeclarations ks

/-- How the functions of some types are dispatched after some declarations. -/
structure Dispatched (ks : List SubjectKind) (types : TypeMap) : Prop where
  /-- A further declaration is refused if and only if its name is builtin. -/
  refused : ∀ k e, (declared ks).declareKind k = .error e ↔
    Catalog.isBuiltin k.name = true ∧ e = .builtinRedeclared k.name
  /-- The builtin names keep their kinds. -/
  builtin : ∀ k ∈ Catalog.builtinKinds, (declared ks).catalog.get? k.name = some k
  /-- Any other name stands for the kind that was declared last under it. -/
  latest : ∀ name, Catalog.isBuiltin name = false →
    (declared ks).catalog.get? name = ks.reverse.find? fun k => k.name = name
  /-- Every bound function is an exported function of a registered type, and follows the kind that it
  states, or else that of its type, or else the one for objects. -/
  kinds : ∀ f ∈ ((declared ks).built types).functions,
    ∃ o ∈ Manifest.occurrences types (declared ks).catalog,
      o.bound types (declared ks).catalog = .ok f ∧
      ∃ kind, (declared ks).catalog.get? o.kindName = some kind ∧ Manifest.Follows kind o.function f
  /-- What is written for a function of a builtin family are the lines that its entry point and its
  handle ask for, and one statement of them calls the bridge. -/
  lines : ∀ (f : FunctionBinding) (entryPoint : String), f.family.entryPoint? = some entryPoint →
    ∃ d, Definition.ofBinding? f = some d ∧ d.lines = f.linesCalling entryPoint ∧
      (d.body.filter (·.isCall)).length = 1 ∧
      ∀ emitters module subject,
        Source.emit emitters types module subject f = .ok (Text.ofLines (f.linesCalling entryPoint))

/-- Whatever was declared before, a function is dispatched by its kind, and its body written by its
family. -/
theorem dispatched (ks : List SubjectKind) (types : TypeMap) : Dispatched ks types where
  refused := fun _ _ => declareKind_eq_error
  builtin := by
    intro k hk
    rw [declared, get?_afterDeclarations, if_pos (Catalog.isBuiltin_of_mem hk)]
    exact Catalog.get?_builtin_of_mem hk
  latest := by
    intro name hname
    have hnone : ({} : CApi).catalog.get? name = none := Catalog.get?_builtin_of_not hname
    rw [declared, get?_afterDeclarations, hname, hnone, Option.or_none]
    rfl
  kinds := by
    intro f hf
    obtain ⟨o, ho, hbound⟩ := Manifest.exists_bound_of_mem hf
    exact ⟨o, ho, hbound, Manifest.follows_of_bound hbound⟩
  lines := by
    intro f entryPoint hentry
    obtain ⟨d, hd, hlines⟩ := Definition.exists_lines hentry
    refine ⟨d, hd, hlines, Definition.calls_length hd, fun emitters module subject => ?_⟩
    rw [Source.emit, hd, ← hlines]
    rfl

/-- Declarations of which the first is refused and the last counts. -/
def radioKinds : List SubjectKind :=
  [{ name := "Object", family := .singleton }, { name := "Remote", family := .singleton },
    { name := "Remote", family := .eventRouter, usesHandle := true }]

def radio : TypeMap where
  entries := [{
    name := "Radio", kind := .object, subjectKind? := some "Remote"
    functions := [{
      name := "tune", paramTypes := [.int32], paramNames := ["channel"], returnType := .bool
      callable? := some .host }] }]
  nodup := by decide

theorem dispatched_radio :
    (declared radioKinds).catalog.get? "Object" = some ⟨"Object", .methodTable, true, true⟩ ∧
    (declared radioKinds).catalog.get? "Remote" = some ⟨"Remote", .eventRouter, true, false⟩ ∧
    ∃ f ∈ ((declared radioKinds).built radio).functions, ∀ emitters module subject,
      Source.emit emitters radio module subject f = .ok (Text.ofLines [
        "uint8_t Radio_tune(DomBind_Handle* self, int32_t channel)",
        "\x7b",
        "    (void)self;",
        "    DomBind_Value args[1];",
        "    args[0] = DomBind_Int((int64_t)channel);",
        "    DomBind_Value result = DomBind_RouteEvent(\"Radio\", \"tune\", args, 1);",
        "    return (uint8_t)(result.as.i != 0);",
        "\x7d"]) := by
  have hradio := dispatched radioKinds radio
  have hlines : ((declared radioKinds).built radio).functions.map (fun f =>
      (f.family.entryPoint?, f.linesCalling "DomBind_RouteEvent")) = [(some "DomBind_RouteEvent", [
        "uint8_t Radio_tune(DomBind_Handle* self, int32_t channel)",
        "\x7b",
        "    (void)self;",
        "    DomBind_Value args[1];",
        "    args[0] = DomBind_Int((int64_t)channel);",
        "    DomBind_Value result = DomBind_RouteEvent(\"Radio\", \"tune\", args, 1);",
        "    return (uint8_t)(result.as.i != 0);",
        "\x7d"])] := by decide +kernel
  refine ⟨hradio.builtin ⟨"Object", .methodTable, true, true⟩ (by decide),
    hradio.latest "Remote" (by decide), ?_⟩
  obtain ⟨f, hf, hfields⟩ := List.mem_map.1 (hlines ▸ List.mem_singleton_self _)
  obtain ⟨hentry, hlines⟩ := Prod.mk.inj hfields
  obtain ⟨_, -, -, -, hemit⟩ := hradio.lines f _ hentry
  exact ⟨f, hf, hlines ▸ hemit⟩

end CApi

end Bindery
