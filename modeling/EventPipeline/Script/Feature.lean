import EventPipeline.Component.Standard
import EventPipeline.Script.Fault
import EventPipeline.Script.Value

/-!
# Features of values

A value has features, each with a name: the parts of numbers and ranges are values of their own, and
most others are functions that belong to the value. Which names there are is a matter of its kind;
some of them every value has. Features stay as they are, except those of functions of a script.
-/

namespace EventPipeline.Script

open Component (namesOfLines)

/-! ## Names of features -/

/-- The features of every value. -/
def commonFeatures : List Text := namesOfLines [
  "__class__ __delattr__ __dir__ __doc__ __eq__ __format__ __ge__ __getattribute__ __getstate__",
  "__gt__ __hash__ __init__ __init_subclass__ __le__ __lt__ __ne__ __new__ __reduce__",
  "__reduce_ex__ __repr__ __setattr__ __sizeof__ __str__ __subclasshook__"]

/-- The further features of whole numbers and truth values. -/
def wholeFeatures : List Text := namesOfLines [
  "__abs__ __add__ __and__ __bool__ __ceil__ __divmod__ __float__ __floor__ __floordiv__",
  "__getnewargs__ __index__ __int__ __invert__ __lshift__ __mod__ __mul__ __neg__ __or__ __pos__",
  "__pow__ __radd__ __rand__ __rdivmod__ __rfloordiv__ __rlshift__ __rmod__ __rmul__ __ror__",
  "__round__ __rpow__ __rrshift__ __rshift__ __rsub__ __rtruediv__ __rxor__ __sub__ __truediv__",
  "__trunc__ __xor__ as_integer_ratio bit_count bit_length conjugate denominator from_bytes imag",
  "numerator real to_bytes"]

/-- The further features of double-precision numbers. -/
def realFeatures : List Text := namesOfLines [
  "__abs__ __add__ __bool__ __ceil__ __divmod__ __float__ __floor__ __floordiv__ __getformat__",
  "__getnewargs__ __int__ __mod__ __mul__ __neg__ __pos__ __pow__ __radd__ __rdivmod__",
  "__rfloordiv__ __rmod__ __rmul__ __round__ __rpow__ __rsub__ __rtruediv__ __sub__ __truediv__",
  "__trunc__ as_integer_ratio conjugate fromhex hex imag is_integer real"]

/-- The further features of complex numbers. -/
def complexFeatures : List Text := namesOfLines [
  "__abs__ __add__ __bool__ __complex__ __getnewargs__ __mul__ __neg__ __pos__ __pow__ __radd__",
  "__rmul__ __rpow__ __rsub__ __rtruediv__ __sub__ __truediv__ conjugate imag real"]

/-- The further features that texts and bytes share. -/
def characterFeatures : List Text := namesOfLines [
  "__add__ __contains__ __getitem__ __getnewargs__ __iter__ __len__ __mod__ __mul__ __rmod__",
  "__rmul__ capitalize center count endswith expandtabs find index isalnum isalpha isascii isdigit",
  "islower isspace istitle isupper join ljust lower lstrip maketrans partition removeprefix",
  "removesuffix replace rfind rindex rjust rpartition rsplit rstrip split splitlines startswith",
  "strip swapcase title translate upper zfill"]

/-- The features that only texts have. -/
def textFeatures : List Text := namesOfLines [
  "casefold encode format format_map isdecimal isidentifier isnumeric isprintable"]

/-- The features that only bytes have. -/
def byteFeatures : List Text := namesOfLines ["__bytes__ decode fromhex hex"]

/-- The further features of lists. -/
def listFeatures : List Text := namesOfLines [
  "__add__ __class_getitem__ __contains__ __delitem__ __getitem__ __iadd__ __imul__ __iter__",
  "__len__ __mul__ __reversed__ __rmul__ __setitem__ append clear copy count extend index insert",
  "pop remove reverse sort"]

/-- The further features of tuples. -/
def tupleFeatures : List Text := namesOfLines [
  "__add__ __class_getitem__ __contains__ __getitem__ __getnewargs__ __iter__ __len__ __mul__",
  "__rmul__ count index"]

/-- The further features of sets that cannot grow. -/
def fixedSetFeatures : List Text := namesOfLines [
  "__and__ __class_getitem__ __contains__ __iter__ __len__ __or__ __rand__ __ror__ __rsub__",
  "__rxor__ __sub__ __xor__ copy difference intersection isdisjoint issubset issuperset",
  "symmetric_difference union"]

/-- The features that only sets have that can grow. -/
def setFeatures : List Text := namesOfLines [
  "__iand__ __ior__ __isub__ __ixor__ add clear difference_update discard intersection_update pop",
  "remove symmetric_difference_update update"]

/-- The further features of objects. -/
def mappingFeatures : List Text := namesOfLines [
  "__class_getitem__ __contains__ __delitem__ __getitem__ __ior__ __iter__ __len__ __or__",
  "__reversed__ __ror__ __setitem__ clear copy fromkeys get items keys pop popitem setdefault",
  "update values"]

/-- The further features of the functions of a script. -/
def functionFeatures : List Text := namesOfLines [
  "__annotations__ __builtins__ __call__ __closure__ __code__ __defaults__ __dict__ __get__",
  "__globals__ __kwdefaults__ __module__ __name__ __qualname__"]

/-- The further features of the functions that every script has. -/
def standingFeatures : List Text := namesOfLines [
  "__call__ __module__ __name__ __qualname__ __self__ __text_signature__"]

/-- The further features of failures. -/
def failureFeatures : List Text := namesOfLines [
  "__cause__ __context__ __dict__ __setstate__ __suppress_context__ __traceback__ add_note args",
  "with_traceback"]

/-- The further features of the functions that belong to the values of a type. -/
def methodFeatures : List Text := namesOfLines [
  "__call__ __get__ __name__ __objclass__ __qualname__ __text_signature__"]

/-- The further features of types. -/
def typeFeatures : List Text := namesOfLines [
  "__annotations__ __base__ __bases__ __basicsize__ __call__ __dict__ __dictoffset__ __flags__",
  "__instancecheck__ __itemsize__ __module__ __mro__ __name__ __or__ __prepare__ __qualname__",
  "__ror__ __subclasscheck__ __subclasses__ __text_signature__ __weakrefoffset__ mro"]

/-- The further features of a type together with what its values hold. -/
def filledTypeFeatures : List Text := namesOfLines [
  "__args__ __copy__ __deepcopy__ __mro_entries__ __origin__ __parameters__",
  "__typing_unpacked_tuple_args__ __unpacked__"]

/-- The further features of a choice between types. -/
def unionFeatures : List Text := namesOfLines ["__args__ __getitem__ __or__ __parameters__ __ror__"]

/-- The further features of slices. -/
def sliceFeatures : List Text := namesOfLines ["indices start step stop"]

/-- The further features of ranges. -/
def rangeFeatures : List Text := namesOfLines [
  "__bool__ __contains__ __getitem__ __iter__ __len__ __reversed__ count index start step stop"]

/-- The further features of what an object shows of its values. -/
def valuesFeatures : List Text := namesOfLines ["__iter__ __len__ __reversed__ mapping"]

/-- The further features of what an object shows of its keys and its entries. -/
def keysFeatures : List Text := valuesFeatures ++ namesOfLines [
  "__and__ __contains__ __or__ __rand__ __ror__ __rsub__ __rxor__ __sub__ __xor__ isdisjoint"]

/-- The further features of streams. -/
def streamFeatures : List Text := namesOfLines ["__iter__ __next__"]

/-- The further features of the streams that loops give. -/
def loopFeatures : List Text := streamFeatures ++ namesOfLines [
  "__del__ __name__ __qualname__ close gi_code gi_frame gi_running gi_suspended gi_yieldfrom send",
  "throw"]

/-- The further features of streams of the items of a set or of what an object shows. -/
def countedFeatures : List Text := "__length_hint__".toList :: streamFeatures

/-- The further features of streams of the items of a list, a tuple, a text or a range. -/
def placedFeatures : List Text := "__setstate__".toList :: countedFeatures

/-- The further features of the values of each kind, but of failures. -/
def kindFeatures : List (String × List Text) := [
  ("NoneType", ["__bool__".toList]), ("NotImplementedType", ["__bool__".toList]),
  ("ellipsis", []), ("object", []), ("bool", wholeFeatures), ("int", wholeFeatures),
  ("float", realFeatures), ("complex", complexFeatures),
  ("str", characterFeatures ++ textFeatures), ("bytes", characterFeatures ++ byteFeatures),
  ("bytearray", characterFeatures ++ byteFeatures ++ listFeatures), ("list", listFeatures),
  ("tuple", tupleFeatures), ("set", fixedSetFeatures ++ setFeatures),
  ("frozenset", fixedSetFeatures), ("dict", mappingFeatures), ("dict_keys", keysFeatures),
  ("dict_items", keysFeatures), ("dict_values", valuesFeatures), ("range", rangeFeatures),
  ("slice", sliceFeatures), ("type", typeFeatures),
  ("types.GenericAlias", listFeatures ++ filledTypeFeatures), ("types.UnionType", unionFeatures),
  ("function", functionFeatures), ("builtin_function_or_method", standingFeatures),
  ("method_descriptor", methodFeatures), ("generator", loopFeatures),
  ("enumerate", "__class_getitem__".toList :: streamFeatures),
  ("zip", "__setstate__".toList :: streamFeatures), ("reversed", placedFeatures),
  ("list_iterator", placedFeatures), ("list_reverseiterator", placedFeatures),
  ("tuple_iterator", placedFeatures), ("str_iterator", placedFeatures),
  ("str_ascii_iterator", placedFeatures), ("bytes_iterator", placedFeatures),
  ("range_iterator", placedFeatures), ("set_iterator", countedFeatures),
  ("dict_keyiterator", countedFeatures), ("dict_valueiterator", countedFeatures),
  ("dict_itemiterator", countedFeatures), ("dict_reversekeyiterator", countedFeatures),
  ("dict_reversevalueiterator", countedFeatures), ("dict_reverseitemiterator", countedFeatures)]

/-- The features of the values of a kind that is none of failures. -/
def plainFeatures? (kind : Text) : Option (List Text) :=
  (kindFeatures.find? fun k => k.1.toList = kind).map Prod.snd

/-- The further features of the values of a kind. -/
def featuresOfKind (kind : Text) : List Text :=
  (plainFeatures? kind).getD failureFeatures

/-- Whether a value has a feature; a type has those of its values. -/
def hasFeature (v : Value) (name : Text) : Bool :=
  commonFeatures.contains name || (featuresOfKind v.kindWord).contains name ||
    match v with
    | .type kind => (featuresOfKind kind).contains name
    | .filledType kind _ => (featuresOfKind kind ++ typeFeatures).contains name
    | _ => false

/-! ## Features -/

/-- The features that are the same for all values of a kind or can be told from the value. -/
def part? (v : Value) (name : Text) : Option Value :=
  let isNamed (words : List String) : Bool := words.any fun word => word.toList = name
  match v with
  | .float x =>
    if isNamed ["real"] then some (.float x)
    else if isNamed ["imag"] then some (.float Binary64.zero)
    else none
  | .complex z =>
    if isNamed ["real"] then some (.float z.re)
    else if isNamed ["imag"] then some (.float z.im)
    else none
  | .slice first last step =>
    if isNamed ["start"] then some first
    else if isNamed ["stop"] then some last
    else if isNamed ["step"] then some step
    else none
  | .range first last step =>
    if isNamed ["start"] then some (.int first)
    else if isNamed ["stop"] then some (.int last)
    else if isNamed ["step"] then some (.int step)
    else none
  | .type kind => if isNamed ["__name__", "__qualname__"] then some (.text kind) else none
  | .filledType kind held =>
    if isNamed ["__name__", "__qualname__"] then some (.text kind)
    else if isNamed ["__origin__"] then some (.type kind)
    else if isNamed ["__args__"] then some (.tuple held)
    else none
  | .union choices => if isNamed ["__args__"] then some (.tuple choices) else none
  | .standing word => if isNamed ["__name__", "__qualname__"] then some (.text word) else none
  | .method _ word => if isNamed ["__name__"] then some (.text word) else none
  | .null => if isNamed ["__doc__"] then some .null else none
  | .constant _ _ => if isNamed ["__doc__"] then some .null else none
  | .list _ => if isNamed ["__hash__"] then some .null else none
  | .set _ => if isNamed ["__hash__"] then some .null else none
  | .view kind _ =>
    if kind ≠ Value.valuesKind && isNamed ["__hash__"] then some .null else none
  | .mapping _ => if isNamed ["__hash__"] then some .null else none
  | .function =>
    if isNamed ["__closure__", "__kwdefaults__", "__doc__"] then some .null else none
  | v =>
    if isNamed ["real", "numerator"] then v.whole?.map .int
    else if isNamed ["imag"] then v.whole?.map fun _ => .int 0
    else if isNamed ["denominator"] then v.whole?.map fun _ => .int 1
    else none

/-- Whether a feature is no function. -/
def isPlainFeature (name : Text) : Bool :=
  let names := namesOfLines [
    "__doc__ __module__ __self__ __text_signature__ __args__ __parameters__ __dict__",
    "__annotations__ __builtins__ __code__ __defaults__ __globals__ __name__ __qualname__",
    "__objclass__ gi_code gi_frame gi_running gi_suspended gi_yieldfrom mapping"]
  names.contains name

/-- The features of failures that are parts of them. -/
def failureParts : List Text := namesOfLines [
  "__cause__ __context__ __suppress_context__ __traceback__ args"]

/-- Whether a feature is a part of the values of a kind, or of the kind itself. -/
def isPart (kind name : Text) : Bool :=
  let parts : Option (String × List Text) := [
    ("bool", namesOfLines ["real imag numerator denominator"]),
    ("int", namesOfLines ["real imag numerator denominator"]),
    ("float", namesOfLines ["real imag"]), ("complex", namesOfLines ["real imag"]),
    ("range", namesOfLines ["start stop step"]),
    ("slice", namesOfLines ["start stop step"])].find? fun k => k.1.toList = kind
  !(featuresOfKind kind).contains name || failureParts.contains name ||
    parts.any fun k => k.2.contains name

/-- What lacks a feature. -/
def lackOf (v : Value) (name : Text) : Lack :=
  match v with
  | .type kind => .ofType kind name
  | .filledType kind _ => .ofType kind name
  | v => .ofKind v.kindWord name

/-- A feature of a value. -/
def featureOf (v : Value) (name : Text) : Except RunError Value :=
  if v.isUnknown then .ok .other
  else if name = "__class__".toList then .ok (.type v.kindWord)
  else
    match part? v name with
    | some found => .ok found
    | none =>
      if !hasFeature v name then .error (.lack (lackOf v name))
      else if isPlainFeature name then .ok .other
      else
        match v with
        | .type kind => .ok (if isPart kind name then .other else .method v name)
        | .filledType _ _ => .ok .other
        | v => .ok (.method v name)

/-- Checks that a feature of a value can be set, which changes no value that is followed. -/
def checkFeature (v : Value) (name : Text) : Except RunError Unit :=
  match v with
  | .function => .ok ()
  | .other => .ok ()
  | .type _ => .error .mismatch
  | v =>
    if name = "__class__".toList then .error .mismatch
    else if !hasFeature v name then .error (.lack (lackOf v name))
    else
      match v with
      | .slice _ _ _ => if (part? v name).isSome then .error .readOnly else fixed v
      | v =>
        if (part? v name).isSome && name ≠ "__hash__".toList then
          .error (.fixedNumber v.kindWord name)
        else fixed v
where
  /-- The failure to set a feature that stays as it is. -/
  fixed (v : Value) : Except RunError Unit :=
    .error (.fixed v.kindWord name)

end EventPipeline.Script
