import Sluice.Idna.Label
import Sluice.Idna.Punycode
import Sluice.Idna.Repertoire

/-! International names of hosts, in ASCII.

Every character is mapped — upper case to lower case, wide forms to plain ones, some to nothing —
and the name is normalized. Labels beyond ASCII are checked and encoded behind `xn--`; a label that
comes with that sign already must decode to one that the mapping would leave alone. -/
namespace Sluice.Idna

/-- What a character turns into; `none` if it is refused. -/
def mapped? (n : Nat) : Option (List Nat) :=
  if n < 128 then some [(Char.ofNat n).toLower.toNat]
  else if Repertoire.kept.contains n then some [n]
  else match Repertoire.replaced.row? n with
    | some r => some (match r.values with | [first] => [first + (n - r.low)] | values => values)
    | none => if Repertoire.dropped.contains n then some [] else none

/-- The mapped and normalized text. -/
def prepare? (text : List Nat) : Option (List Nat) :=
  (text.mapM mapped?).map fun parts => Text.Canonical.normalize parts.flatten

def isAscii (text : List Nat) : Bool :=
  text.all (· < 128)

/-- The sign in front of an encoded label. -/
def sign : List Nat :=
  "xn--".toList.map Char.toNat

/-- The longest labels that are encoded and decoded. -/
def maxEncoded : Nat := 1000
def maxDecoded : Nat := 2000

/-- The label that stands encoded behind the sign. It is not plain ASCII, not itself signed, and
has the form that the mapping would give it. -/
def decode? (tail : List Nat) : Option (List Nat) := do
  if !isAscii tail || maxDecoded < tail.length then none
  let label ← Punycode.decode (tail.map Char.ofNat)
  if isAscii label || sign.isPrefixOf label then none
  if prepare? label = some label then some label else none

/-- A label as it is read, and as it is written. -/
structure Label where
  letters : List Nat
  ascii : List Nat

/-- The two forms of a prepared label. -/
def Label.ofPrepared? (text : List Nat) : Option Label := do
  let label : Label ←
    if sign.isPrefixOf text then (decode? (text.drop sign.length)).map (⟨·, text⟩)
    else if isAscii text then some ⟨text, text⟩
    else if maxEncoded < text.length then none
    else some ⟨text, sign ++ (Punycode.encode text).map Char.toNat⟩
  if isAscii label.letters || Label.wellFormed label.letters then some label else none

/-- The name in ASCII. No character of ASCII for which `forbidden` holds may be in it, whether from
the start or by the mapping. -/
def toAscii? (forbidden : Char → Bool) (name : List Char) : Option String := do
  let prepared ← prepare? (name.map Char.toNat)
  let labels ← (prepared.splitOn '.'.toNat).mapM Label.ofPrepared?
  let ascii := ([46].intercalate (labels.map (·.ascii))).map Char.ofNat
  if prepared.any (fun n => n < 128 && forbidden (Char.ofNat n)) then none
  if labels.any (fun l => Label.isRightward l.letters) &&
      !labels.all (fun l => Label.keepsDirection l.letters) then none
  return String.ofList ascii

end Sluice.Idna
