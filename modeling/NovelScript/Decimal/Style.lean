import NovelScript.Decimal.Shortest

/-!
# Decimal styles — how the digits of a value are laid out

A value has two written forms in this library: the plain form of source text, which never uses an
exponent, and the form of JSON, which switches to one outside a range and always marks a decimal as
such. Both lay out the same shortest digits, so the choices that differ are fields of one record,
`DecimalStyle`, and one function writes every style.
-/

set_option autoImplicit false

namespace NovelScript

/-- The choices of a written form. -/
structure DecimalStyle where
  /-- Where an exact tie between two shortest forms goes. -/
  tie : Tie
  /-- The decimal exponents (of the leading digit) that are written positionally. -/
  positional : Int → Bool
  /-- What marks a positional number without a fraction. -/
  whole : String
  /-- The text of a value that is no number; it has no sign. -/
  nan : String
  /-- The text of an infinite value, after its sign. -/
  infinity : String

/-- `n` zeros. -/
def zeros (n : Nat) : String := String.ofList (List.replicate n '0')

/-- The digits with the point where it belongs. -/
def Digits.positional (d : Digits) (whole : String) : String :=
  let digits := (Nat.repr d.coefficient).toList
  match d.exponent with
  | .ofNat n => String.ofList digits ++ zeros n ++ whole
  | .negSucc n =>
    let places := n + 1
    if places < digits.length then
      String.ofList (digits.take (digits.length - places)) ++ "." ++
        String.ofList (digits.drop (digits.length - places))
    else "0." ++ zeros (places - digits.length) ++ String.ofList digits

/-- One digit, the others after a point, and the exponent with its sign. -/
def Digits.scientific (d : Digits) : String :=
  let digits := (Nat.repr d.coefficient).toList
  let leading := d.exponent + (digits.length - 1 : Nat)
  let fraction := digits.drop 1
  String.ofList (digits.take 1) ++
    (if fraction.isEmpty then "" else "." ++ String.ofList fraction) ++
    (if leading < 0 then "e-" else "e+") ++ Nat.repr leading.natAbs

/-- The decimal exponent of the leading digit. -/
def Digits.leading (d : Digits) : Int :=
  d.exponent + ((Nat.repr d.coefficient).length - 1 : Nat)

/-- An absolute value in a style. -/
def DecimalStyle.unsigned (style : DecimalStyle) (x : Binary64) : String :=
  match x.magnitude with
  | .nan => style.nan
  | .infinite => style.infinity
  | .finite 0 _ => "0" ++ style.whole
  | .finite significand exponent =>
    let digits := shortestDigits significand exponent x.isLowerEdge style.tie
    if style.positional digits.leading then digits.positional style.whole else digits.scientific

/-- A value in a style: a minus sign for a set sign bit, but none for a NaN. -/
def DecimalStyle.write (style : DecimalStyle) (x : Binary64) : String :=
  match x.magnitude with
  | .nan => style.nan
  | _ => (if x.isNegative then "-" else "") ++ style.unsigned x

/-- Source text writes every number positionally and adds nothing to a whole one. -/
def DecimalStyle.plain : DecimalStyle where
  tie := .up
  positional := fun _ => true
  whole := ""
  nan := "NaN"
  infinity := "inf"

/-- JSON writes leading exponents from -5 to 15 positionally, and marks a whole number by `.0`. -/
def DecimalStyle.json : DecimalStyle where
  tie := .toEven
  positional := fun e => decide (-5 ≤ e) && decide (e ≤ 15)
  whole := ".0"
  nan := "null"
  infinity := "null"

end NovelScript
