import Bindery.Header.Guard
/-!
The runtime header. It declares the bridge that every generated body calls: the handle type, the value
that arguments and results are packed into, and the entry points that the embedding application
defines.
-/

namespace Bindery.Header

/-- The value that arguments and results are packed into. -/
def bridgeValue : List String := [
  "typedef enum DomBind_ValueKind \x7b",
  "    DOMBIND_VALUE_VOID = 0,",
  "    DOMBIND_VALUE_BOOL = 1,",
  "    DOMBIND_VALUE_INT = 2,",
  "    DOMBIND_VALUE_UINT = 3,",
  "    DOMBIND_VALUE_FLOAT = 4,",
  "    DOMBIND_VALUE_STRING = 5,",
  "    DOMBIND_VALUE_POINTER = 6",
  "\x7d DomBind_ValueKind;",
  "",
  "typedef struct DomBind_Value \x7b",
  "    DomBind_ValueKind kind;",
  "    union \x7b",
  "        int64_t i;",
  "        uint64_t u;",
  "        double f;",
  "        const char* s;",
  "        const void* p;",
  "    \x7d as;",
  "\x7d DomBind_Value;",
  ""]

/-- The functions that pack a value. -/
def bridgePackers : List String := [
  "static inline DomBind_Value DomBind_Bool(uint8_t v)",
  "\x7b",
  "    DomBind_Value value;",
  "    value.kind = DOMBIND_VALUE_BOOL;",
  "    value.as.i = v ? 1 : 0;",
  "    return value;",
  "\x7d",
  "",
  "static inline DomBind_Value DomBind_Int(int64_t v)",
  "\x7b",
  "    DomBind_Value value;",
  "    value.kind = DOMBIND_VALUE_INT;",
  "    value.as.i = v;",
  "    return value;",
  "\x7d",
  "",
  "static inline DomBind_Value DomBind_UInt(uint64_t v)",
  "\x7b",
  "    DomBind_Value value;",
  "    value.kind = DOMBIND_VALUE_UINT;",
  "    value.as.u = v;",
  "    return value;",
  "\x7d",
  "",
  "static inline DomBind_Value DomBind_Float(double v)",
  "\x7b",
  "    DomBind_Value value;",
  "    value.kind = DOMBIND_VALUE_FLOAT;",
  "    value.as.f = v;",
  "    return value;",
  "\x7d",
  "",
  "static inline DomBind_Value DomBind_String(const char* v)",
  "\x7b",
  "    DomBind_Value value;",
  "    value.kind = DOMBIND_VALUE_STRING;",
  "    value.as.s = v;",
  "    return value;",
  "\x7d",
  "",
  "static inline DomBind_Value DomBind_Pointer(const void* v)",
  "\x7b",
  "    DomBind_Value value;",
  "    value.kind = DOMBIND_VALUE_POINTER;",
  "    value.as.p = v;",
  "    return value;",
  "\x7d",
  ""]

/-- The entry points of the embedding application. -/
def bridgeEntryPoints : List String := [
  "/* Live instance behind a handle, or NULL when the handle is stale. */",
  "void* DomBind_ResolveHandle(DomBind_Handle* handle);",
  "",
  "/* Call `method` through the method table of `instance`. A NULL instance",
  "   addresses the type-level table of `type`. */",
  "DomBind_Value DomBind_InvokeMethod(void* instance, const char* type, const char* method,",
  "                                   const DomBind_Value* args, uint32_t argc);",
  "",
  "/* Call `function` on the process-wide singleton `subject`. */",
  "DomBind_Value DomBind_InvokeSingleton(const char* subject, const char* function,",
  "                                      const DomBind_Value* args, uint32_t argc);",
  "",
  "/* Forward to the event dispatch entry point of `subject`. */",
  "DomBind_Value DomBind_RouteEvent(const char* subject, const char* function,",
  "                                 const DomBind_Value* args, uint32_t argc);",
  ""]

/-- The lines of the runtime header in the given file. -/
def runtimeLines (fileName : String) : List String :=
  [banner, ""] ++ openGuard fileName ++
    ["", "#include <stddef.h>", "#include <stdint.h>", ""] ++ openLinkage ++ [""] ++
    handleDeclaration ++ [""] ++ bridgeValue ++ bridgePackers ++ bridgeEntryPoints ++ closeLinkage ++
    ["", closeGuard fileName]

/-- The text of the runtime header in the given file. -/
def runtimeText (fileName : String) : String := Text.ofLines (runtimeLines fileName)

end Bindery.Header
