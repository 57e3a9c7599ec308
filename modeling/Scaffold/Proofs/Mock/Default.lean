import Mathlib
import Scaffold.Proofs.Mock.Value
import Scaffold.Proofs.Number.Digits
import Scaffold.Proofs.Number.Nearest

/-!
# Whole numbers as defaults

A default that is written as a whole number is read as a floating point value and turned back into
an integer. Whatever has more than fifty-three significant bits is rounded on the way, and what is
rounded to the end of the range, or lies there, stays a floating point value.
-/

namespace Scaffold

namespace Mock

open Double (NearestTo FitsInt)

/-- What a written whole number becomes that is rounded to `r`. -/
def wholeValue (n r : Int) : Json :=
  if r.natAbs < 2 ^ 63 then Json.int r else Json.float (Double.ofInt n)

theorem numberOfText?_whole {n r : Int} {cs : List Char} (htext : Text.trim cs = Number.intDigits n)
    (h : Nat.log2 n.natAbs ≤ 900) (hr : (Double.ofInt n).toInt? = some r) :
    numberOfText? cs = some (wholeValue n r) := by
  rw [numberOfText?, htext, Double.ofText?_intDigits h]
  dsimp only
  rw [hr, wholeValue]

theorem wholeValue_eq_int_iff {n r : Int} (hlow : -2 ^ 63 ≤ n) (hhigh : n < 2 ^ 63)
    (hr : NearestTo n r) : wholeValue n r = Json.int n ↔ FitsInt n ∧ n ≠ -2 ^ 63 := by
  rw [wholeValue, ← hr.eq_iff]
  constructor
  · intro h
    split at h
    · rename_i hrange
      have heq : r = n := by simpa [Json.int] using h
      exact ⟨heq, by omega⟩
    · simp [Json.int, Json.float] at h
  · rintro ⟨rfl, hne⟩
    rw [if_pos (by omega)]

theorem log2_le_of_range {n : Int} (hlow : -2 ^ 63 ≤ n) (hhigh : n < 2 ^ 63) :
    Nat.log2 n.natAbs ≤ 900 := by
  rcases Nat.eq_zero_or_pos n.natAbs with hzero | hpos
  · rw [hzero]
    decide
  · have hless : Nat.log2 n.natAbs < 64 := by
      apply (Nat.log2_lt hpos.ne').2
      omega
    omega

section Payload

variable {catalog : List DataType} {p : Param} {d : DataType} {n r : Int} {front back : List Char}

theorem paramValue_of_text {cs : List Char} {v : Json} (value : DataType → Sample)
    (htype : p.type? catalog = some d) (hformat : d.format = Format.number)
    (hdefault : p.defaultValue = some (.str (String.ofList cs))) (hne : cs ≠ [])
    (hread : numberOfText? cs = some v) :
    paramValue value catalog p = (if p.isArray then .arr [v] else v, []) := by
  have husable : usableDefault? p = some (.str (String.ofList cs)) := by
    have htext : String.ofList cs ≠ "" := by
      intro h
      apply hne
      simpa using congrArg String.toList h
    rw [usableDefault?, hdefault]
    exact if_neg htext
  have hcoerced : coerceDefault (.str (String.ofList cs)) (some d.format) = v := by
    rw [coerceDefault, coerceText, if_pos (congrArg some hformat), String.toList_ofList, hread,
      Option.getD_some]
  rw [paramValue_eq, singleValue_of_default husable, htype, Option.map_some, hcoerced]

theorem find?_synthesize {ps : List Param} {v : Json} {errors : List String} (depth : Nat)
    (hlast : IsLast ps p)
    (hvalue : paramValue (typeValue catalog depth) catalog p = (v, errors)) :
    (synthesize depth Format.hash ps catalog).json.get? p.name = some v := by
  have hformat : Format.hash ≠ Format.array := by decide
  have hmember := (gathers_ofList ps fun q =>
    (paramValue (typeValue catalog depth) catalog q).1).find?_name p hlast
  rw [hvalue] at hmember
  simp only [synthesize, payload, if_neg hformat, if_pos, objectValue_eq]
  exact hmember

/-- A default that is a whole number of the range becomes the nearest floating point value, and is
kept exactly when that is the number itself and not the lower end of the range. -/
theorem whole_default_exact_iff (hlow : -2 ^ 63 ≤ n) (hhigh : n < 2 ^ 63)
    (htype : p.type? catalog = some d) (hformat : d.format = Format.number)
    (hfront : ∀ c ∈ front, Text.isBlank c = true) (hback : ∀ c ∈ back, Text.isBlank c = true)
    (hdefault : p.defaultValue =
      some (.str (String.ofList (front ++ (toString n).toList ++ back)))) :
    ∃ r, (Double.ofInt n).toInt? = some r ∧ NearestTo n r ∧
      (wholeValue n r = Json.int n ↔ FitsInt n ∧ n ≠ -2 ^ 63) ∧
      (∀ value, paramValue value catalog p =
        (if p.isArray then .arr [wholeValue n r] else wholeValue n r, [])) ∧
      ∀ depth ps, IsLast ps p →
        (synthesize depth Format.hash ps catalog).json.get? p.name =
          some (if p.isArray then .arr [wholeValue n r] else wholeValue n r) := by
  have hlog := log2_le_of_range hlow hhigh
  obtain ⟨r, hr, hnearest⟩ := Double.exists_nearestTo_ofInt hlog
  have hdigits : (toString n).toList = Number.intDigits n := (Number.intDigits_eq n).symm
  rw [hdigits] at hdefault
  have htrim : Text.trim (front ++ Number.intDigits n ++ back) = Number.intDigits n :=
    Text.trim_between_blanks hfront hback (Number.intDigits_ne_nil n)
      Number.not_isBlank_of_mem_intDigits
  have hne : front ++ Number.intDigits n ++ back ≠ [] := by
    simp [Number.intDigits_ne_nil]
  have hvalue : ∀ value, paramValue value catalog p =
      (if p.isArray then .arr [wholeValue n r] else wholeValue n r, []) := fun value =>
    paramValue_of_text value htype hformat hdefault hne (numberOfText?_whole htrim hlog hr)
  refine ⟨r, hr, hnearest, wholeValue_eq_int_iff hlow hhigh hnearest, hvalue, ?_⟩
  intro depth ps hlast
  exact find?_synthesize depth hlast (hvalue _)

end Payload

/-- A parameter of the first type with a written default. -/
def writtenDefault (text : String) : Param :=
  { name := "n", typeId := some 1, defaultValue := some (.str text) }

def numberType : DataType := { id := 1, name := "Number", format := Format.number }

/-- More than fifty-three bits, of which the last is not significant. -/
theorem even_default_exact :
    let n : Int := -9007199254740994
    let even : Param := writtenDefault " -9007199254740994\n"
    FitsInt n ∧ ∀ depth,
      (synthesize depth Format.hash [even] [numberType]).json.get? "n" = some (Json.int n) := by
  intro n even
  have hfits : FitsInt n := ⟨-4503599627370497, 1, by decide, by decide⟩
  have hlow : -2 ^ 63 ≤ n := by decide
  have hhigh : n < 2 ^ 63 := by decide
  have htype : even.type? [numberType] = some numberType := rfl
  have hfront : ∀ c ∈ [' '], Text.isBlank c = true := List.forall_mem_singleton.2 rfl
  have hback : ∀ c ∈ ['\n'], Text.isBlank c = true := List.forall_mem_singleton.2 rfl
  have htext : " -9007199254740994\n" =
      String.ofList ([' '] ++ (toString n).toList ++ ['\n']) := by decide +kernel
  have hdefault : even.defaultValue =
      some (.str (String.ofList ([' '] ++ (toString n).toList ++ ['\n']))) :=
    congrArg (fun text => some (Json.str text)) htext
  have hlast : IsLast [even] even := ⟨[], [], rfl, by simp⟩
  obtain ⟨r, -, -, hexact, -, hpayload⟩ :=
    whole_default_exact_iff hlow hhigh htype rfl hfront hback hdefault
  refine ⟨hfits, ?_⟩
  intro depth
  have hmember := hpayload depth [even] hlast
  rw [hexact.2 ⟨hfits, by decide⟩] at hmember
  exact hmember

/-- One bit too many, and the lower end of the range. -/
theorem odd_default_not_exact :
    let payload := fun text =>
      (synthesize defaultDepth Format.hash [writtenDefault text] [numberType]).json.get? "n"
    (payload "9007199254740993").bind Json.int? = some 9007199254740992 ∧
      payload "9007199254740993" ≠ some (Json.int 9007199254740993) ∧
      payload "-9223372036854775808" ≠ some (Json.int (-9223372036854775808)) := by
  intro payload
  have hodd : (payload "9007199254740993").bind Json.int? = some 9007199254740992 := by
    decide +kernel
  have hend : (payload "-9223372036854775808").bind Json.int? = none := by
    decide +kernel
  refine ⟨hodd, ?_, ?_⟩
  · intro h
    simp [h, Json.int, Json.int?] at hodd
  · intro h
    simp [h, Json.int, Json.int?] at hend

end Mock

end Scaffold
