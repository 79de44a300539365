/-! Header fields.

A header map keeps its fields in the order in which they came; one name may stand several times.
Names are tokens in lower case; a value is text without controls other than the tab. The fields that
belong to one connection only are not passed on. -/
namespace Sluice.Http

/-- The characters that methods and field names are made of. -/
def isTokenChar (c : Char) : Bool :=
  c.isAlphanum || "!#$%&'*+-.^_`|~".toList.contains c

/-- A token is a non-empty run of token characters. -/
def isToken (s : String) : Bool :=
  !s.isEmpty && s.toList.all isTokenChar

structure FieldName where
  text : String
deriving DecidableEq, Repr

inductive HeaderError where
  | invalidName
  | invalidValue
deriving DecidableEq, Repr

def HeaderError.message : HeaderError → String
  | invalidName => "invalid HTTP header name"
  | invalidValue => "failed to parse header value"

namespace FieldName

def maxBytes : Nat := 65535

def ofString (s : String) : Except HeaderError FieldName :=
  if s.utf8ByteSize ≤ maxBytes && isToken s then .ok ⟨s.toLower⟩ else .error .invalidName

def connection : FieldName := ⟨"connection"⟩
def contentLength : FieldName := ⟨"content-length"⟩
def contentType : FieldName := ⟨"content-type"⟩
def host : FieldName := ⟨"host"⟩
def proxyAuthenticate : FieldName := ⟨"proxy-authenticate"⟩
def proxyAuthorization : FieldName := ⟨"proxy-authorization"⟩
def te : FieldName := ⟨"te"⟩
def trailer : FieldName := ⟨"trailer"⟩
def transferEncoding : FieldName := ⟨"transfer-encoding"⟩
def upgrade : FieldName := ⟨"upgrade"⟩
def userAgent : FieldName := ⟨"user-agent"⟩
def xRequestId : FieldName := ⟨"x-request-id"⟩

end FieldName

/-- A value may hold anything but controls; of these only the tab. -/
def isFieldValue (s : String) : Bool :=
  s.toList.all fun c => c = '\t' || (' ' ≤ c && c ≠ '\x7f')

structure Field where
  name : FieldName
  value : String
deriving DecidableEq, Repr

/-- The name is looked at before the value. -/
def Field.ofPair (name value : String) : Except HeaderError Field := do
  let name ← FieldName.ofString name
  if isFieldValue value then .ok ⟨name, value⟩ else .error .invalidValue

structure Headers where
  fields : List Field
deriving DecidableEq, Repr

namespace Headers

def empty : Headers := ⟨[]⟩

/-- Fields in their order; the first bad one decides. -/
def ofPairs (pairs : List (String × String)) : Except HeaderError Headers :=
  return ⟨← pairs.mapM fun (name, value) => Field.ofPair name value⟩

/-- All values of a name, in order. -/
def values (h : Headers) (name : FieldName) : List String :=
  h.fields.filterMap fun f => if f.name = name then some f.value else none

/-- The first value of a name. -/
def get? (h : Headers) (name : FieldName) : Option String :=
  (h.values name).head?

def contains (h : Headers) (name : FieldName) : Bool :=
  h.fields.any (·.name = name)

/-- Drops every field of a name. -/
def remove (h : Headers) (name : FieldName) : Headers :=
  ⟨h.fields.filter (·.name ≠ name)⟩

/-- Drops every field of any of these names. -/
def removeAll (h : Headers) (names : List FieldName) : Headers :=
  names.foldl remove h

def append (h : Headers) (name : FieldName) (value : String) : Headers :=
  ⟨h.fields ++ [⟨name, value⟩]⟩

/-- One value in place of whatever the name had. -/
def insert (h : Headers) (name : FieldName) (value : String) : Headers :=
  (h.remove name).append name value

/-- The fields by name; the values of one name keep their order. -/
def sorted (h : Headers) : List Field :=
  h.fields.mergeSort fun a b => decide (a.name.text ≤ b.name.text)

@[simp] theorem values_append (h : Headers) (name other : FieldName) (value : String) :
    (h.append name value).values other =
      h.values other ++ (if name = other then [value] else []) := by
  by_cases e : name = other <;> simp [append, values, e]

theorem values_remove_other {name other : FieldName} (h : Headers) (e : other ≠ name) :
    (h.remove name).values other = h.values other := by
  simp only [remove, values, List.filterMap_filter]
  congr 1
  funext f
  by_cases hf : f.name = other <;> simp_all

@[simp] theorem values_remove_same (h : Headers) (name : FieldName) :
    (h.remove name).values name = [] := by
  simp [remove, values, List.filterMap_eq_nil_iff]

end Headers

/-! ### Fields of one connection -/

namespace HopByHop

def names : List FieldName :=
  [.connection, .proxyAuthenticate, .proxyAuthorization, .te, .trailer, .transferEncoding, .upgrade]

/-- What is left to pass on. -/
def strip (h : Headers) : Headers :=
  h.removeAll names

end HopByHop
end Sluice.Http
