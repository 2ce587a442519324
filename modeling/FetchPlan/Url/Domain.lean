import FetchPlan.Unicode.ClassData
import FetchPlan.Unicode.Composition
import FetchPlan.Unicode.HostMapping
import FetchPlan.Url.Encoding
import FetchPlan.Url.Punycode

/-!
Domain names of special schemes, brought into ASCII. A name is mapped (case folded, ignorable
characters dropped, compatibility forms replaced) and composed; each of its labels is checked; a
label that is not ASCII is written in Punycode after the four characters that announce it.
-/
namespace FetchPlan.Url.Domain

open FetchPlan.Unicode

/-- What a character turns into; `none` for one that no host name may hold. -/
def mapChar (c : Char) : Option (List Nat) :=
  let n := c.toNat
  if n < 128 then some [c.toLower.toNat]
  else if isIn HostMapping.valid n then some [n]
  else (find? HostMapping.mapped n).map (·.targetOf n)

def mapName (s : List Char) : Option (List Char) := do
  let mapped ← s.mapM mapChar
  let points := mapped.flatten
  let composed := if points.all (· < 128) then points else Composition.normalize points
  pure (composed.map Char.ofNat)

/-- The characters of ASCII that a domain name may not hold. -/
def forbidden (c : Char) : Bool :=
  isControl c || c == ' ' || c == '%' || c == '#' || c == '/' || c == ':' || c == '<' || c == '>' ||
    c == '?' || c == '@' || c == '[' || c == '\\' || c == ']' || c == '^' || c == '|'

inductive Direction where
  | left | right | arabicLetter | arabicNumber | europeanNumber | separator | neutral | nonspacing
  deriving DecidableEq, Repr

/-- The direction class of a code point that a domain name may hold; separators and terminators of
numbers are one class, since the rules do not tell them apart. -/
def direction (n : Nat) : Direction :=
  if n < 128 then
    if 48 ≤ n ∧ n ≤ 57 then .europeanNumber
    else if (Char.ofNat n).isAlpha then .left
    else if n = 0x2B ∨ n = 0x2D ∨ n = 0x2C ∨ n = 0x2E ∨ n = 0x24 ∨ n = 0x23 ∨
      n = 0x25 then .separator
    else .neutral
  else if isIn Class.nonspacing n then .nonspacing
  else if isIn Class.rightToLeft n then .right
  else if isIn Class.arabicLetter n then .arabicLetter
  else if isIn Class.arabicNumber n then .arabicNumber
  else if isIn Class.europeanNumber n then .europeanNumber
  else if isIn Class.europeanSeparator n || isIn Class.commonSeparator n ||
      isIn Class.europeanTerminator n then .separator
  else if isIn Class.neutral n || isIn Class.boundary n then .neutral
  else .left

/-- Whether a code point makes its domain name one of two directions. -/
def isRightToLeft (d : Direction) : Bool := d == .right || d == .arabicLetter || d == .arabicNumber

/-- The direction rule for one label of a domain name that holds right-to-left characters. -/
def directionsAgree (label : List Char) : Bool :=
  let ds := label.map fun c => direction c.toNat
  let last := (ds.reverse.dropWhile (· == .nonspacing)).head?
  match ds.head? with
  | none => true
  | some .left =>
    ds.all (fun d => !isRightToLeft d) && (last == some .left || last == some .europeanNumber)
  | some first =>
    (first == .right || first == .arabicLetter) && ds.all (· ≠ .left) &&
      (last == some .right || last == some .arabicLetter || last == some .europeanNumber ||
        last == some .arabicNumber) &&
      !(ds.contains .europeanNumber && ds.contains .arabicNumber)

/-- Whether a joiner of width zero may follow the reversed text `before` and precede `after`. The
joiner U+200D stands after a virama only; the non-joiner also between letters that would join. -/
def joinerAllowed (c : Char) (before after : List Char) : Bool :=
  let virama := (before.head?.map fun b => Composition.classOf b.toNat) == some 9
  let next (s : List Char) :=
    (s.dropWhile fun x => isIn Class.transparent x.toNat).head?.map Char.toNat
  let joinsLeft (n : Nat) := isIn Class.leftJoining n || isIn Class.dualJoining n
  let joinsRight (n : Nat) := isIn Class.rightJoining n || isIn Class.dualJoining n
  virama || (c == '\u200C' && (next before).any joinsLeft && (next after).any joinsRight)

/-- Whether every joiner in a text stands where it may. -/
def joinersAllowed (before : List Char) : List Char → Bool
  | [] => true
  | c :: r =>
    (!(c == '\u200C' || c == '\u200D') || joinerAllowed c before r) &&
      joinersAllowed (c :: before) r

def labelAllowed (label : List Char) : Bool :=
  !(label.head?.any fun c => isIn Class.mark c.toNat) && joinersAllowed [] label

/-- The four characters that announce a label in Punycode. -/
def announcement : List Char := "xn--".toList

/-- The text that a label stands for, with the checks that a label in Punycode needs: it holds a
character outside ASCII and is what mapping and composing leave of it. -/
def readLabel (label : List Char) : Option (List Char) :=
  match announcement.isPrefixOf? label with
  | none => some label
  | some code => do
    if label.any (·.toNat ≥ 128) then none
    let text ← Punycode.decode code
    let mapped ← mapName text
    if text.all (·.toNat < 128) || mapped ≠ text then none else some text

def writeLabel (text : List Char) : List Char :=
  if text.all (·.toNat < 128) then text else announcement ++ Punycode.encode text

def toAscii (s : List Char) : Option (List Char) := do
  let name ← mapName s
  let labels ← (Text.fields (· == '.') name).mapM readLabel
  let marked :=
    labels.any fun l => l.any fun c => c.toNat ≥ 128 && isRightToLeft (direction c.toNat)
  if labels.any (·.any forbidden) then none
  else if labels.any fun l => l.any (·.toNat ≥ 128) && !labelAllowed l then none
  else if marked && !labels.all directionsAgree then none
  else some (List.intercalate ['.'] (labels.map writeLabel))

end FetchPlan.Url.Domain
