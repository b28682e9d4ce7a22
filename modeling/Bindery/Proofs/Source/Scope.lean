import Bindery.Source.Emit
import Bindery.Proofs.Entry.Parameters
import Bindery.Proofs.Json.Scanning
import Bindery.Proofs.Manifest.Occurrence
import Bindery.Proofs.Prototype
/-!
The scope of a generated function. The handle parameter, the parameters and the names that the body
declares share one scope. Some of them are stated with the function; the others are supplied, and never
collide among themselves. So no name is declared twice exactly when the stated names are distinct and
none of them is a supplied one.
-/

namespace Bindery

/-! ### Names of a binding -/

namespace FunctionBinding

/-- What a binding took from its prototype. -/
def shape (f : FunctionBinding) : Manifest.Shape := ⟨f.signature, f.isStated, f.handleParam?, f.params⟩

/-- The names that the body declares if it is generated: the object that a method table resolves, the
array of the arguments if there are any, and the result if it is returned. -/
def localNames (f : FunctionBinding) : List String :=
  (if f.family = .methodTable ∧ f.handleParam?.isSome then ["instance"] else []) ++
    (if f.params.isEmpty then [] else ["args"]) ++
    if f.returnType.isVoid then [] else ["result"]

end FunctionBinding

namespace Definition

variable {f : FunctionBinding} {d : Definition}

/-- The names that the body declares. -/
def localNames (d : Definition) : List String := d.body.filterMap (·.declared?)

theorem declared_packArgs (params : List CParam) :
    (packArgs params).filterMap (·.declared?) = if params.isEmpty then [] else ["args"] := by
  rw [packArgs]
  split
  · rfl
  · rw [List.mapIdx_eq_zipIdx_map]
    simp [Statement.declared?]

theorem declared_callBridge (f : FunctionBinding) (bridge : BridgeCall) :
    (callBridge f bridge).filterMap (·.declared?) =
      if f.returnType.isVoid then [] else ["result"] := by
  rw [callBridge]
  split <;> rfl

/-- A generated body declares the names that its family has to declare. -/
theorem localNames_eq (h : ofBinding? f = some d) : d.localNames = f.localNames := by
  have hdiscard (handle? : Option String) :
      (handle?.toList.map Statement.discard).filterMap (·.declared?) = [] := by
    cases handle? <;> rfl
  rw [ofBinding?] at h
  rw [localNames, FunctionBinding.localNames]
  cases hfamily : f.family with
  | methodTable =>
    obtain rfl : methodTable f = d := by simpa [hfamily] using h
    cases hhandle : f.handleParam? with
    | none => simp [methodTable, hhandle, declared_packArgs, declared_callBridge]
    | some handle =>
      have hresolve : (Statement.resolve handle).declared? = some "instance" := rfl
      have hstale (value? : Option String) : (Statement.returnIfStale value?).declared? = none := rfl
      simp [methodTable, hhandle, hresolve, hstale, declared_packArgs, declared_callBridge]
  | singleton =>
    obtain rfl : forwarding f .invokeSingleton = d := by simpa [hfamily] using h
    simp [forwarding, hdiscard, declared_packArgs, declared_callBridge]
  | eventRouter =>
    obtain rfl : forwarding f .routeEvent = d := by simpa [hfamily] using h
    simp [forwarding, hdiscard, declared_packArgs, declared_callBridge]
  | custom => simp [hfamily] at h

theorem signature_eq (h : ofBinding? f = some d) : d.signature = f.signature := by
  rw [ofBinding?] at h
  split at h <;> cases h <;> rfl

end Definition

/-! ### Stated and supplied names -/

namespace FunctionEntry

/-- The parameter names that a function states: those of its prototype, or else those that its
parameters have. -/
def statedNames (f : FunctionEntry) (symbol : String) : List String :=
  match f.prototype? with
  | some stated => (Prototype.parameters stated symbol).toOption.getD []
  | none => (f.paramNames.take f.paramTypes.length).filter (· ≠ "")

/-- The names of parameters, up to a position, that have none of their own. -/
def defaultNames (f : FunctionEntry) (n : Nat) : List String :=
  ((List.range n).filter fun i => f.paramNames[i]?.getD "" = "").map defaultParamName

/-- The parameter names that are supplied to a function: none if its prototype is stated, and else that
of the handle and those of the parameters that have none. -/
def suppliedNames (f : FunctionEntry) (takesHandle : Bool) : List String :=
  match f.prototype? with
  | some _ => []
  | none =>
    (if takesHandle then [Manifest.selfParam] else []) ++ f.defaultNames f.paramTypes.length

variable {f : FunctionEntry}

/-- The parameters up to a position have their own names, or default ones. -/
theorem paramNames_perm (f : FunctionEntry) (n : Nat) :
    ((List.range n).map f.paramName).Perm
      (f.defaultNames n ++ (f.paramNames.take n).filter (· ≠ "")) := by
  induction n with
  | zero => rfl
  | succ n ih =>
    have hnames : f.defaultNames (n + 1) =
        f.defaultNames n ++ if f.paramNames[n]?.getD "" = "" then [defaultParamName n] else [] := by
      rw [defaultNames, List.range_succ, List.filter_append, List.map_append, defaultNames]
      by_cases hmissing : f.paramNames[n]?.getD "" = "" <;> simp [hmissing]
    rw [List.range_succ, List.map_append, List.take_add_one, List.filter_append, hnames,
      List.map_singleton]
    by_cases hmissing : f.paramNames[n]?.getD "" = ""
    · have hkept : f.paramNames[n]?.toList.filter (· ≠ "") = [] := by
        cases hname : f.paramNames[n]? <;> simp_all
      rw [if_pos hmissing, paramName_of_missing hmissing, hkept, List.append_nil, List.append_assoc]
      refine (ih.append_right _).trans ?_
      rw [List.append_assoc]
      exact List.perm_append_comm.append_left _
    · obtain ⟨name, hname⟩ : ∃ name, f.paramNames[n]? = some name := by
        cases hname : f.paramNames[n]? <;> simp_all
      have hne : name ≠ "" := by simpa [hname] using hmissing
      have hkept : f.paramNames[n]?.toList.filter (· ≠ "") = [name] := by simp [hname, hne]
      rw [if_neg hmissing, paramName_of_stated hname hne, hkept, List.append_nil,
        ← List.append_assoc]
      exact ih.append_right _

/-! ### Supplied names do not collide -/

theorem toList_defaultParamName (i : Nat) :
    (defaultParamName i).toList = 'a' :: 'r' :: 'g' :: Nat.toDigits 10 i := by
  rw [defaultParamName, String.toList_append]
  exact congrArg (['a', 'r', 'g'] ++ ·) Nat.toList_repr

theorem defaultParamName_inj {i j : Nat} (h : defaultParamName i = defaultParamName j) : i = j := by
  have hdigits : Nat.toDigits 10 i = Nat.toDigits 10 j := by
    simpa [toList_defaultParamName] using congrArg String.toList h
  have hvalue := congrArg (Nat.ofDigitChars 10 · 0) hdigits
  simpa [Nat.ofDigitChars_ten_toDigits] using hvalue

/-- The names that are supplied whatever the parameters are. -/
def fixedNames : List String := ["self", "instance", "args", "result"]

/-- After `arg` a default name goes on with a digit. -/
theorem defaultParamName_not_mem (i : Nat) : defaultParamName i ∉ fixedNames := by
  intro hmem
  have hlist := List.mem_map_of_mem (f := String.toList) hmem
  rw [toList_defaultParamName] at hlist
  have hargs : Nat.toDigits 10 i = ['s'] := by simpa [fixedNames] using hlist
  have hdigit : 's'.isDigit = true := Json.isDigit_toDigits i 's' (by simp [hargs])
  cases hdigit

theorem defaultNames_nodup (f : FunctionEntry) (n : Nat) : (f.defaultNames n).Nodup :=
  (List.nodup_range.filter _).map fun _ _ => defaultParamName_inj

/-- No supplied name is supplied twice, or declared by a body. -/
theorem supplied_nodup (f : FunctionEntry) (takesHandle : Bool) (b : FunctionBinding) :
    (f.suppliedNames takesHandle ++ b.localNames).Nodup := by
  have hsupplied : (f.suppliedNames takesHandle).Sublist
      ("self" :: f.defaultNames f.paramTypes.length) := by
    rw [suppliedNames]
    split
    · exact List.nil_sublist _
    · cases takesHandle
      · exact List.sublist_cons_self _ _
      · exact .refl _
  have hlocals : b.localNames.Sublist ["instance", "args", "result"] := by
    rw [FunctionBinding.localNames]
    split <;> split <;> split <;> decide
  have hall : ("self" :: f.defaultNames f.paramTypes.length ++
      ["instance", "args", "result"]).Nodup := by
    have hperm : ("self" :: f.defaultNames f.paramTypes.length ++
        ["instance", "args", "result"]).Perm (fixedNames ++ f.defaultNames f.paramTypes.length) :=
      (List.perm_append_comm.cons "self").trans (by rfl)
    rw [hperm.nodup_iff, List.nodup_append]
    refine ⟨by decide, defaultNames_nodup f _, ?_⟩
    rintro name hname _ hdefault rfl
    obtain ⟨i, -, rfl⟩ := List.mem_map.1 hdefault
    exact defaultParamName_not_mem i hname
  exact hall.sublist (hsupplied.append hlocals)

end FunctionEntry

namespace Manifest

/-- The names of the parameters of a shape, that of the handle first. -/
def Shape.parameterNames (s : Shape) : List String :=
  s.handleParam?.toList ++ s.params.map (·.name)

/-- Whether the signature of a shape declares its parameters: if it was stated they are read from it,
and otherwise it is derived from them. -/
def Shape.SignatureDeclares (s : Shape) (returnCType symbol : String) : Prop :=
  if s.isStated then Prototype.parameters s.signature symbol = .ok s.parameterNames
  else s.signature =
    Prototype.derive returnCType symbol (s.handleParam?.map (CTypes.runtimeHandle, ·)) s.params

variable {catalog : Catalog} {ctypes : CTypes} {types : TypeMap} {owner : TypeEntry}
  {ownerKind : SubjectKind} {fn : FunctionEntry} {f : FunctionBinding}

/-! ### The scope of a binding -/

/-- Names that take the places of others are all there. -/
theorem names_zipWith {ps : List CParam} {names : List String} (h : names.length = ps.length) :
    (ps.zipWith (fun p name => { p with name := name }) names).map (·.name) = names := by
  apply List.ext_getElem
  · simp [h]
  · intro i _ _
    simp

theorem statedShape_of_shapeOf {returnCType stated : String} {takesHandle : Bool} {ps : List CParam}
    {shape : Shape} (hstated : fn.prototype? = some stated)
    (h : shapeOf owner fn returnCType takesHandle ps = .ok shape) :
    statedShape stated (symbolOf owner fn) takesHandle ps = .ok shape := by
  rw [shapeOf, hstated] at h
  cases hs : statedShape stated (symbolOf owner fn) takesHandle ps with
  | error fault =>
    simp only [hs] at h
    cases h
  | ok shape' =>
    simp only [hs] at h
    cases h
    rfl

/-- The parameters of a stated shape have the names of the prototype, that of the handle first. -/
theorem statedShape_names {stated symbol : String} {takesHandle : Bool} {ps : List CParam}
    {shape : Shape} (h : statedShape stated symbol takesHandle ps = .ok shape) :
    shape.isStated = true ∧ shape.signature = Prototype.normalize stated ∧
      Prototype.parameters stated symbol = .ok shape.parameterNames := by
  obtain ⟨names, hread, hlength, rfl⟩ := statedShape_eq_ok h
  refine ⟨rfl, rfl, hread.trans (congrArg _ ?_)⟩
  cases takesHandle with
  | false => exact (names_zipWith (by simpa using hlength)).symm
  | true =>
    obtain ⟨handle, names, rfl⟩ := List.exists_cons_of_length_eq_add_one hlength
    exact congrArg (handle :: ·) (names_zipWith (by simpa using hlength)).symm

/-- The signature of a shape declares its parameters. -/
theorem shapeOf_declares {returnCType : String} {takesHandle : Bool} {ps : List CParam} {shape : Shape}
    (h : shapeOf owner fn returnCType takesHandle ps = .ok shape) :
    shape.SignatureDeclares returnCType (symbolOf owner fn) := by
  rw [Shape.SignatureDeclares]
  cases hstated : fn.prototype? with
  | none =>
    obtain rfl : derivedShape returnCType (symbolOf owner fn) takesHandle ps = shape := by
      simpa [shapeOf, hstated] using h
    cases takesHandle <;> rfl
  | some stated =>
    obtain ⟨his, hsignature, hread⟩ := statedShape_names (statedShape_of_shapeOf hstated h)
    rw [if_pos his, hsignature]
    exact Prototype.parameters_normalize hread

/-- The parameters of a shape have the names that the function states and those that are supplied. -/
theorem shapeOf_names_perm {returnCType : String} {takesHandle : Bool} {ps : List CParam}
    {shape : Shape} (hparams : params ctypes owner fn = .ok ps)
    (h : shapeOf owner fn returnCType takesHandle ps = .ok shape) :
    shape.parameterNames.Perm
      (fn.suppliedNames shape.handleParam?.isSome ++ fn.statedNames (symbolOf owner fn)) := by
  rw [FunctionEntry.suppliedNames, FunctionEntry.statedNames]
  cases hstated : fn.prototype? with
  | none =>
    obtain rfl : derivedShape returnCType (symbolOf owner fn) takesHandle ps = shape := by
      simpa [shapeOf, hstated] using h
    have hnames : ps.map (·.name) = (List.range fn.paramTypes.length).map fn.paramName := by
      rw [paramsFrom_names hparams, List.range_eq_range']
    have hperm := fn.paramNames_perm fn.paramTypes.length
    rw [← hnames] at hperm
    cases takesHandle
    · exact hperm
    · exact hperm.cons selfParam
  | some stated =>
    obtain ⟨-, -, hread⟩ := statedShape_names (statedShape_of_shapeOf hstated h)
    simp [hread, Except.toOption]

/-- The parameter names of a binding are those that its function states and those that are supplied,
and its signature declares them. -/
theorem parameterNames_perm (h : bindFunction catalog ctypes owner ownerKind fn = .ok f) :
    f.shape.SignatureDeclares f.returnCType f.symbol ∧
      f.shape.parameterNames.Perm
        (fn.suppliedNames f.handleParam?.isSome ++ fn.statedNames f.symbol) := by
  obtain ⟨_, _, _, _, -, -, -, hparams, hshape, rfl⟩ := bindFunction_eq_ok h
  exact ⟨shapeOf_declares hshape, shapeOf_names_perm hparams hshape⟩

/-! ### Declared once -/

/-- A generated definition declares no name twice if and only if the names that its function states are
distinct, and none of them is one that is supplied to the function or declared by the body. -/
theorem declared_once (f : FunctionBinding) (hf : f ∈ (build types catalog).manifest.functions)
    (d : Definition) (hd : Definition.ofBinding? f = some d) :
    (∀ emitters module subject, Source.emit emitters types module subject f = .ok d.text) ∧
      d.signature = f.signature ∧ f.shape.SignatureDeclares f.returnCType f.symbol ∧
      ∃ o ∈ occurrences types catalog, o.bound types catalog = .ok f ∧
        ((f.shape.parameterNames ++ d.localNames).Nodup ↔
          (o.function.statedNames f.symbol).Nodup ∧
            ∀ name ∈ o.function.statedNames f.symbol,
              name ∉ o.function.suppliedNames f.handleParam?.isSome ∧ name ∉ f.localNames) := by
  obtain ⟨t, ht, kind, hkind, henum, fn, hfn, hexported, hb⟩ :=
    mem_accepted.1 (mem_accepted_of_mem hf)
  obtain ⟨i, hi⟩ := List.mem_iff_getElem?.1 (List.mem_filter.2 ⟨hfn, hexported⟩)
  have hbinds : bindsFunctions catalog t = true := by simp [bindsFunctions, hkind, henum]
  obtain ⟨hdeclares, hnames⟩ := parameterNames_perm hb
  refine ⟨fun emitters module subject => ?_, Definition.signature_eq hd, hdeclares,
    ⟨t, fn, i⟩, mem_occurrences.2 ⟨ht, hbinds, hi⟩, ?_, ?_⟩
  · rw [Source.emit, hd]
  · rw [Occurrence.bound, hkind]
    exact hb
  · have hall : (f.shape.parameterNames ++ f.localNames).Perm
        (fn.statedNames f.symbol ++ (fn.suppliedNames f.handleParam?.isSome ++ f.localNames)) := by
      rw [← List.append_assoc]
      exact (hnames.trans List.perm_append_comm).append_right _
    rw [Definition.localNames_eq hd, hall.nodup_iff, List.nodup_append]
    simp only [FunctionEntry.supplied_nodup, true_and, List.mem_append]
    refine and_congr_right fun _ => forall₂_congr fun name _ => ?_
    constructor
    · exact fun h => ⟨fun hs => h name (.inl hs) rfl, fun hl => h name (.inr hl) rfl⟩
    · rintro ⟨hs, hl⟩ _ hmem rfl
      exact hmem.elim hs hl

/-- The one object of its kind, with a function that takes a text by the given name. -/
def logger (param : String) : TypeMap where
  entries := [{
    name := "App", kind := .object, subjectKind? := some "Singleton",
    functions := [{
      name := "log", paramTypes := [.string], paramNames := [param], callable? := some .host }] }]
  nodup := by simp

/-- The binding of the function. -/
def logBinding (param : String) : FunctionBinding where
  name := "log"
  symbol := "App_log"
  signature := "void App_log(const char* " ++ param ++ ")"
  isStated := false
  owner := "App"
  module := "app"
  subjectKind := "Singleton"
  family := .singleton
  isStatic := false
  handleParam? := none
  params := [⟨param, "const char*", .string⟩]
  returnType := .void
  returnCType := "void"
  doc := ""

theorem declared_once_message :
    logBinding "message" ∈ (build (logger "message") .builtin).manifest.functions ∧
      ∃ d, Definition.ofBinding? (logBinding "message") = some d ∧
        ((logBinding "message").shape.parameterNames ++ d.localNames).Nodup := by
  have hmem : logBinding "message" ∈ (build (logger "message") .builtin).manifest.functions := by
    decide +kernel
  have hnames : ∀ o ∈ occurrences (logger "message") .builtin,
      (o.function.statedNames "App_log").Nodup ∧ ∀ name ∈ o.function.statedNames "App_log",
        name ∉ o.function.suppliedNames false ∧ name ∉ (logBinding "message").localNames := by
    decide +kernel
  refine ⟨hmem, _, rfl, ?_⟩
  obtain ⟨-, -, -, o, ho, -, hiff⟩ := declared_once _ hmem _ rfl
  exact hiff.2 (hnames o ho)

/-- A parameter called `args` is an identifier like any other, and the body declares `args` again. -/
theorem declared_twice_args :
    ∃ f ∈ (build (logger "args") .builtin).manifest.functions,
      (∃ o ∈ occurrences (logger "args") .builtin, o.bound (logger "args") .builtin = .ok f ∧
        o.function.statedNames f.symbol = ["args"] ∧ Prototype.IsIdentifier "args") ∧
      ∃ d, Definition.ofBinding? f = some d ∧
        d.lines = ["void App_log(const char* args)", "\x7b", "    DomBind_Value args[1];",
          "    args[0] = DomBind_String(args);",
          "    DomBind_InvokeSingleton(\"App\", \"log\", args, 1);", "\x7d"] ∧
        ¬ (f.shape.parameterNames ++ d.localNames).Nodup := by
  have hmem : logBinding "args" ∈ (build (logger "args") .builtin).manifest.functions := by
    decide +kernel
  refine ⟨_, hmem, ⟨⟨(logger "args").entries[0], (logger "args").entries[0].functions[0], 0⟩, ?_, ?_⟩,
    _, rfl, ?_, ?_⟩
  · decide +kernel
  · exact ⟨rfl, by decide +kernel, by decide⟩
  · decide +kernel
  · decide +kernel

end Manifest

end Bindery
