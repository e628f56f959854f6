import TagAtlas.Net.Domain.Label
import TagAtlas.Net.Domain.Punycode
/-! The ASCII form of a domain name under the domain name standard for applications (UTS 46),
with nontransitional processing, hyphens unchecked, joiners and bidirectional text checked, and
no length limits. Every code point is mapped; a mapped ASCII code point that the caller denies
rejects the domain. The mapped text is split at full stops. A label that begins with `xn--` must
be ASCII and Punycode for a label that is not all ASCII; every label must then meet the rules of
a label. The ASCII form keeps ASCII labels and labels given in Punycode as they are, and writes
each other label in Punycode after `xn--`. Mapped text is checked as mapped, without composing
its combining sequences. -/
namespace TagAtlas.Domain

/-- A mapped label: its code points, the text it was written as, and whether that text was
Punycode. -/
structure Label where
  text : List Char
  written : List Char
  fromPunycode : Bool

/-- Read a mapped label, decoding it when it begins with `xn--`. -/
def Label.read (label : List Char) : Option Label :=
  if hasAcePrefix label then
    if label.any (·.toNat ≥ 0x80) then none
    else
      match Punycode.decode (label.drop 4) with
      | some text => if text.all (·.toNat < 0x80) then none else some ⟨text, label, true⟩
      | none => none
  else some ⟨label, label, false⟩

/-- The ASCII form of a label. -/
def Label.ascii (l : Label) : List Char :=
  if l.fromPunycode || l.text.all (·.toNat < 0x80) then l.written
  else "xn--".toList ++ Punycode.encode l.text

/-- The ASCII form of a domain name, or none when the domain is not valid; `denied` names the
ASCII code points the domain may not hold once mapped. -/
def toAscii? (denied : Char → Bool) (domain : List Char) : Option String := do
  let mapped ← mapText domain
  if mapped.any denied then none
  let labels ← (mapped.splitOn '.').mapM Label.read
  let rightToLeft := labels.any fun l => l.text.any isRightToLeft
  if labels.all fun l => labelFits rightToLeft l.fromPunycode l.text then
    some (String.intercalate "." (labels.map fun l => String.ofList l.ascii))
  else none

example : toAscii? (fun _ => false) "Bücher.Example".toList = some "xn--bcher-kva.example" ∧
    toAscii? (fun _ => false) "xn--zca".toList = some "xn--zca" ∧
    toAscii? (fun _ => false) "xn--".toList = none ∧
    toAscii? (fun _ => false) "\u00AD".toList = some "" ∧
    toAscii? (· == '/') "a／b".toList = none := by
  decide +kernel

end TagAtlas.Domain
