import Mathlib
import Scaffold.Json.Parser
import Scaffold.Json.Printer

/-!
# Numerals

Numbers are printed as digits, with a fraction or an exponent behind them. However they are read,
what is read of a numeral does not depend on what follows it, as long as that does not go on
with the numeral.
-/

namespace Scaffold

namespace Number

def IsDigits (cs : List Char) : Prop :=
  ∀ c ∈ cs, (digitValue? c).isSome = true

/-- Digits end here. -/
def EndsDigits (rest : List Char) : Prop :=
  ∀ c ∈ rest.head?, digitValue? c = none

/-- A numeral without sign ends here. -/
def EndsNumeral (rest : List Char) : Prop :=
  ∀ c ∈ rest.head?, digitValue? c = none ∧ c ≠ '.' ∧ c ≠ 'e' ∧ c ≠ 'E'

/-- The text of a number without sign. Of fraction and exponent there are digits if there is
anything. -/
structure Numeral where
  whole : List Char
  fraction : List Char
  sign : List Char
  power : List Char

namespace Numeral

def fractionChars (n : Numeral) : List Char :=
  if n.fraction = [] then [] else '.' :: n.fraction

def powerChars (n : Numeral) : List Char :=
  if n.power = [] then [] else 'e' :: (n.sign ++ n.power)

def chars (n : Numeral) : List Char :=
  n.whole ++ (n.fractionChars ++ n.powerChars)

structure Proper (n : Numeral) : Prop where
  whole_ne_nil : n.whole ≠ []
  whole : IsDigits n.whole
  fraction : IsDigits n.fraction
  sign : n.sign = [] ∨ n.sign = ['-'] ∨ n.sign = ['+']
  power : IsDigits n.power

end Numeral

variable {ds rest : List Char}

theorem ne_of_digit {c e : Char} (h : (digitValue? c).isSome = true) (he : digitValue? e = none) :
    c ≠ e := by
  rintro rfl
  simp [he] at h

theorem EndsNumeral.digits (h : EndsNumeral rest) : EndsDigits rest :=
  fun c hc => (h c hc).1

theorem IsDigits.tail {c : Char} (h : IsDigits (c :: ds)) : IsDigits ds :=
  fun d hd => h d (List.mem_cons_of_mem c hd)

theorem IsDigits.head {c : Char} (h : IsDigits (c :: ds)) : ∃ d, digitValue? c = some d :=
  Option.isSome_iff_exists.1 (h c (by simp))

theorem takeDigits_of_ends (h : EndsDigits rest) (a k : Nat) :
    takeDigits rest a k = (a, k, rest) := by
  cases rest with
  | nil => rfl
  | cons c rest => simp [takeDigits, h c (by simp)]

theorem takeDigits_append (hds : IsDigits ds) (h : EndsDigits rest) (a k : Nat) :
    takeDigits (ds ++ rest) a k = ((takeDigits ds a k).1, k + ds.length, rest) := by
  induction ds generalizing a k with
  | nil => simp [takeDigits_of_ends h, takeDigits]
  | cons c ds ih =>
    obtain ⟨d, hd⟩ := hds.head
    simp only [List.cons_append, takeDigits, hd, List.length_cons]
    rw [ih hds.tail]
    congr 2
    omega

end Number

namespace Json

open Number

variable {ds rest : List Char}

theorem skipDigits_append (hds : IsDigits ds) (h : EndsDigits rest) (n : Nat) :
    skipDigits (ds ++ rest) n = ((skipDigits ds n).1, rest) := by
  induction ds generalizing n with
  | nil =>
    cases rest with
    | nil => rfl
    | cons c rest => simp [skipDigits, h c (by simp)]
  | cons c ds ih =>
    obtain ⟨d, hd⟩ := hds.head
    simp only [List.cons_append, skipDigits, hd]
    exact ih hds.tail (n + 1)

theorem wholeDigits_append (hds : IsDigits ds) (h : EndsDigits rest) (v : Nat) :
    wholeDigits (ds ++ rest) v = { wholeDigits ds v with rest := rest } := by
  induction ds generalizing v with
  | nil =>
    cases rest with
    | nil => rfl
    | cons c rest => simp [wholeDigits, h c (by simp)]
  | cons c ds ih =>
    obtain ⟨d, hd⟩ := hds.head
    have hskip := skipDigits_append hds h 0
    rw [List.cons_append] at hskip ⊢
    simp only [wholeDigits, hd]
    split
    · simp [hskip]
    · exact ih hds.tail _

theorem fractionDigits_append (hds : IsDigits ds) (h : EndsDigits rest) (v : Nat) (e : Int) :
    fractionDigits (ds ++ rest) v e = { fractionDigits ds v e with rest := rest } := by
  induction ds generalizing v e with
  | nil =>
    cases rest with
    | nil => rfl
    | cons c rest => simp [fractionDigits, h c (by simp)]
  | cons c ds ih =>
    obtain ⟨d, hd⟩ := hds.head
    have hskip := skipDigits_append hds h 0
    rw [List.cons_append] at hskip ⊢
    simp only [fractionDigits, hd]
    split
    · simp [hskip]
    · exact ih hds.tail _ _

/-- The digits of a number up to its fraction, none of them in front of another one if it is a
zero. -/
def wholePart? : List Char → Option Significand
  | [] => none
  | c :: rest =>
    if c = '0' then
      match rest with
      | d :: _ => if (digitValue? d).isSome then none else some ⟨0, 0, rest⟩
      | [] => some ⟨0, 0, rest⟩
    else
      match digitValue? c with
      | some d => some (wholeDigits rest d)
      | none => none

/-- A number that ends behind its digits or goes on with an exponent. -/
def powerPart (negative : Bool) (s : Significand) (ended : Option Number) :
    Option (Number × List Char) :=
  match s.rest with
  | c :: r =>
    if c = 'e' ∨ c = 'E' then withExponent negative s r
    else ended.map fun x => (x, s.rest)
  | [] => ended.map fun x => (x, [])

def fractionPart (negative : Bool) (s : Significand) : Option (Number × List Char) :=
  match s.rest with
  | '.' :: rest =>
    match rest with
    | [] => none
    | d :: _ =>
      if (digitValue? d).isNone then none
      else
        let f := fractionDigits rest s.value s.exponent
        powerPart negative f (floatOf negative f.value f.exponent)
  | _ =>
    powerPart negative s
      (if s.exponent = 0 then some (integerOf negative s.value)
        else floatOf negative s.value s.exponent)

theorem fractionPart_of_ne {negative : Bool} {v : Nat} {e : Int} (h : ∀ c ∈ rest.head?, c ≠ '.') :
    fractionPart negative ⟨v, e, rest⟩ =
      powerPart negative ⟨v, e, rest⟩
        (if e = 0 then some (integerOf negative v) else floatOf negative v e) := by
  unfold fractionPart
  split
  · rename_i heq
    have hrest : rest.head? = some '.' := congrArg List.head? heq
    exact absurd rfl (h '.' (by simp [hrest]))
  · rfl

/-- What is read behind the digits up to the fraction, all at once. -/
def afterWhole (negative : Bool) (s : Significand) : Option (Number × List Char) :=
  match s.rest with
  | '.' :: rest =>
    match rest with
    | [] => none
    | d :: _ =>
      if (digitValue? d).isNone then none
      else
        let f := fractionDigits rest s.value s.exponent
        match f.rest with
        | c :: r =>
          if c = 'e' ∨ c = 'E' then withExponent negative f r
          else (floatOf negative f.value f.exponent).map fun x => (x, f.rest)
        | [] => (floatOf negative f.value f.exponent).map fun x => (x, [])
  | c :: r =>
    if c = 'e' ∨ c = 'E' then withExponent negative s r
    else if s.exponent = 0 then some (integerOf negative s.value, s.rest)
    else (floatOf negative s.value s.exponent).map fun x => (x, s.rest)
  | [] =>
    if s.exponent = 0 then some (integerOf negative s.value, [])
    else (floatOf negative s.value s.exponent).map fun x => (x, [])

theorem afterWhole_eq (negative : Bool) (s : Significand) :
    afterWhole negative s = fractionPart negative s := by
  obtain ⟨v, e, rest⟩ := s
  unfold afterWhole
  dsimp only
  split
  · rfl
  · rename_i c r hdot
    rw [fractionPart_of_ne (by simpa using hdot)]
    unfold powerPart
    dsimp only
    split
    · rfl
    · split <;> rfl
  · rw [fractionPart_of_ne (by simp)]
    split <;> rfl

theorem readNumber_eq_bind_afterWhole (negative : Bool) (cs : List Char) :
    readNumber negative cs = (wholePart? cs).bind (afterWhole negative) := by
  unfold readNumber wholePart?
  dsimp only
  cases cs with
  | nil => rfl
  | cons c rest =>
    dsimp only
    by_cases hzero : c = '0'
    · simp only [hzero, if_true]
      cases rest with
      | nil => rfl
      | cons d rest =>
        dsimp only
        cases (digitValue? d).isSome <;> rfl
    · simp only [hzero, if_false]
      cases digitValue? c <;> rfl

theorem readNumber_eq (negative : Bool) (cs : List Char) :
    readNumber negative cs = (wholePart? cs).bind (fractionPart negative) := by
  rw [readNumber_eq_bind_afterWhole]
  exact congrArg _ (funext (afterWhole_eq negative))

/-! ## Reading numerals -/

theorem wholePart?_append (hne : ds ≠ []) (hds : IsDigits ds) :
    ∃ x : Option (Nat × Int), ∀ rest, EndsDigits rest →
      wholePart? (ds ++ rest) = x.map fun p => ⟨p.1, p.2, rest⟩ := by
  obtain ⟨c, ds, rfl⟩ := List.exists_cons_of_ne_nil hne
  obtain ⟨d, hd⟩ := hds.head
  simp only [List.cons_append, wholePart?, hd]
  by_cases hzero : c = '0'
  · simp only [hzero, if_true]
    cases ds with
    | nil =>
      refine ⟨some (0, 0), fun rest h => ?_⟩
      cases rest with
      | nil => rfl
      | cons r rest => simp [h r (by simp)]
    | cons c' ds =>
      obtain ⟨d', hd'⟩ := hds.tail.head
      exact ⟨none, fun rest _ => by simp [hd']⟩
  · simp only [hzero, if_false]
    refine ⟨some ((wholeDigits ds d).value, (wholeDigits ds d).exponent), fun rest h => ?_⟩
    rw [wholeDigits_append hds.tail h]
    rfl

theorem withExponent_append (negative : Bool) {sign : List Char}
    (hsign : sign = [] ∨ sign = ['-'] ∨ sign = ['+']) (hne : ds ≠ []) (hds : IsDigits ds)
    (v : Nat) (e : Int) :
    ∃ x : Option Number, ∀ tail rest, EndsDigits rest →
      withExponent negative ⟨v, e, tail⟩ (sign ++ ds ++ rest) = x.map fun n => (n, rest) := by
  obtain ⟨minus, hminus⟩ :
      ∃ minus, ∀ rest, splitSign (sign ++ ds ++ rest) = (minus, ds ++ rest) := by
    rcases hsign with rfl | rfl | rfl
    · obtain ⟨c, ds, rfl⟩ := List.exists_cons_of_ne_nil hne
      have hplus : c ≠ '+' := ne_of_digit (hds c (by simp)) (by decide)
      have hdash : c ≠ '-' := ne_of_digit (hds c (by simp)) (by decide)
      refine ⟨false, fun rest => ?_⟩
      simp [splitSign, hplus, hdash]
    · exact ⟨true, fun _ => rfl⟩
    · exact ⟨false, fun _ => rfl⟩
  have hlength : 0 + ds.length ≠ 0 := by simpa using hne
  have hread : ∀ tail rest, EndsDigits rest →
      withExponent negative ⟨v, e, tail⟩ (sign ++ ds ++ rest) =
        if 2 ^ 31 ≤ (takeDigits ds 0 0).1 then
          if v = 0 ∨ minus then some (.float (Double.zero negative), rest) else none
        else
          (floatOf negative v
            (e + if minus then -((takeDigits ds 0 0).1 : Int) else (takeDigits ds 0 0).1)).map
              fun n => (n, rest) := by
    intro tail rest h
    simp only [withExponent, hminus, takeDigits_append hds h, hlength, if_false]
  by_cases hlarge : 2 ^ 31 ≤ (takeDigits ds 0 0).1
  · by_cases hzero : v = 0 ∨ minus
    · refine ⟨some (.float (Double.zero negative)), fun tail rest h => ?_⟩
      rw [hread tail rest h, if_pos hlarge, if_pos hzero, Option.map_some]
    · refine ⟨none, fun tail rest h => ?_⟩
      rw [hread tail rest h, if_pos hlarge, if_neg hzero, Option.map_none]
  · refine ⟨floatOf negative v
      (e + if minus then -((takeDigits ds 0 0).1 : Int) else (takeDigits ds 0 0).1),
      fun tail rest h => ?_⟩
    rw [hread tail rest h, if_neg hlarge]

theorem powerPart_append {n : Numeral} (hn : n.Proper) (negative : Bool) (v : Nat) (e : Int)
    (ended : Option Number) :
    ∃ x : Option Number, ∀ rest, EndsNumeral rest →
      powerPart negative ⟨v, e, n.powerChars ++ rest⟩ ended = x.map fun y => (y, rest) := by
  by_cases hpower : n.power = []
  · refine ⟨ended, fun rest h => ?_⟩
    rw [Numeral.powerChars, if_pos hpower, List.nil_append]
    unfold powerPart
    cases rest with
    | nil => rfl
    | cons c rest =>
      obtain ⟨-, -, hsmall, hlarge⟩ := h c (by simp)
      simp [hsmall, hlarge]
  · obtain ⟨x, hx⟩ := withExponent_append negative hn.sign hpower hn.power v e
    refine ⟨x, fun rest h => ?_⟩
    rw [Numeral.powerChars, if_neg hpower]
    exact hx _ rest h.digits

theorem endsDigits_powerChars (n : Numeral) (h : EndsNumeral rest) :
    EndsDigits (n.powerChars ++ rest) := by
  unfold Numeral.powerChars
  split
  · exact h.digits
  · intro c hc
    obtain rfl : 'e' = c := by simpa using hc
    decide

theorem fractionPart_append {n : Numeral} (hn : n.Proper) (negative : Bool) (v : Nat) (e : Int) :
    ∃ x : Option Number, ∀ rest, EndsNumeral rest →
      fractionPart negative ⟨v, e, n.fractionChars ++ (n.powerChars ++ rest)⟩ =
        x.map fun y => (y, rest) := by
  by_cases hfraction : n.fraction = []
  · obtain ⟨x, hx⟩ := powerPart_append hn negative v e
      (if e = 0 then some (integerOf negative v) else floatOf negative v e)
    refine ⟨x, fun rest h => ?_⟩
    rw [Numeral.fractionChars, if_pos hfraction, List.nil_append, fractionPart_of_ne]
    · exact hx rest h
    · unfold Numeral.powerChars
      split
      · exact fun c hc => (h c hc).2.1
      · simp
  · obtain ⟨c, ds, hds⟩ := List.exists_cons_of_ne_nil hfraction
    obtain ⟨d, hd⟩ := (hds ▸ hn.fraction).head
    set f := fractionDigits n.fraction v e with hf
    obtain ⟨x, hx⟩ := powerPart_append hn negative f.value f.exponent
      (floatOf negative f.value f.exponent)
    refine ⟨x, fun rest h => ?_⟩
    have hscan := fractionDigits_append hn.fraction (endsDigits_powerChars n h) v e
    rw [hds, List.cons_append] at hscan
    rw [Numeral.fractionChars, if_neg hfraction, hds]
    simp only [List.cons_append, fractionPart, hd, Option.isNone_some, Bool.false_eq_true, if_false,
      hscan]
    rw [← hds]
    exact hx rest h

/-- What is read of a numeral does not depend on what follows it. -/
theorem readNumber_append {n : Numeral} (hn : n.Proper) (negative : Bool) :
    ∃ x : Option Number, ∀ rest, EndsNumeral rest →
      readNumber negative (n.chars ++ rest) = x.map fun y => (y, rest) := by
  obtain ⟨whole, hwhole⟩ := wholePart?_append hn.whole_ne_nil hn.whole
  have hends : ∀ rest, EndsNumeral rest →
      EndsDigits (n.fractionChars ++ (n.powerChars ++ rest)) := by
    intro rest h
    unfold Numeral.fractionChars
    split
    · exact endsDigits_powerChars n h
    · intro c hc
      obtain rfl : '.' = c := by simpa using hc
      decide
  cases whole with
  | none =>
    refine ⟨none, fun rest h => ?_⟩
    rw [Numeral.chars, List.append_assoc, List.append_assoc, readNumber_eq, hwhole _ (hends rest h)]
    rfl
  | some p =>
    obtain ⟨x, hx⟩ := fractionPart_append hn negative p.1 p.2
    refine ⟨x, fun rest h => ?_⟩
    rw [Numeral.chars, List.append_assoc, List.append_assoc, readNumber_eq, hwhole _ (hends rest h)]
    exact hx rest h

end Json

/-- A number with its sign. -/
def Json.readSigned : List Char → Option (Number × List Char)
  | '-' :: cs => readNumber true cs
  | cs => readNumber false cs

/-! ## Printed numbers -/

namespace Number

theorem isDigits_digitChar (d : Nat) : IsDigits [digitChar d] := by
  have hall : ∀ d < 10, (digitValue? (Char.ofNat (48 + d))).isSome = true := by decide
  intro c hc
  obtain rfl : c = digitChar d := by simpa using hc
  exact hall (d % 10) (Nat.mod_lt _ (by decide))

theorem isDigits_append {cs ds : List Char} (hcs : IsDigits cs) (hds : IsDigits ds) :
    IsDigits (cs ++ ds) := by
  intro c hc
  rcases List.mem_append.1 hc with hc | hc
  · exact hcs c hc
  · exact hds c hc

theorem isDigits_natDigitsAux (fuel n : Nat) {acc : List Char} (hacc : IsDigits acc) :
    IsDigits (natDigitsAux fuel n acc) := by
  induction fuel generalizing n acc with
  | zero => exact hacc
  | succ fuel ih =>
    have hnext : ∀ d, IsDigits (digitChar d :: acc) := fun d =>
      isDigits_append (isDigits_digitChar d) hacc
    unfold natDigitsAux
    split
    · exact hnext n
    · exact ih _ (hnext n)

theorem isDigits_natDigits (n : Nat) : IsDigits (natDigits n) :=
  isDigits_natDigitsAux _ n (by simp [IsDigits])

theorem length_natDigitsAux (fuel n : Nat) (acc : List Char) :
    acc.length ≤ (natDigitsAux fuel n acc).length := by
  induction fuel generalizing n acc with
  | zero => exact le_rfl
  | succ fuel ih =>
    unfold natDigitsAux
    split
    · simp
    · exact (Nat.le_succ acc.length).trans (ih _ (digitChar n :: acc))

theorem natDigits_ne_nil (n : Nat) : natDigits n ≠ [] := by
  unfold natDigits natDigitsAux
  split
  · simp
  · intro hnil
    have hlength := length_natDigitsAux (Nat.log2 n) (n / 10) [digitChar n]
    rw [hnil] at hlength
    simp at hlength

theorem isDigits_zeros (n : Nat) : IsDigits (zeros n) := by
  intro c hc
  rw [zeros, List.mem_replicate] at hc
  rw [hc.2]
  decide

theorem IsDigits.take {ds : List Char} (h : IsDigits ds) (k : Nat) : IsDigits (ds.take k) :=
  fun c hc => h c (List.mem_of_mem_take hc)

theorem IsDigits.drop {ds : List Char} (h : IsDigits ds) (k : Nat) : IsDigits (ds.drop k) :=
  fun c hc => h c (List.mem_of_mem_drop hc)

theorem isDigits_nil : IsDigits [] := by
  simp [IsDigits]

/-- Digits are laid out as a numeral. -/
theorem exists_numeral_layDigits {ds : List Char} (hne : ds ≠ []) (hds : IsDigits ds) (k : Int) :
    ∃ n : Numeral, n.Proper ∧ layDigits Layout.data ds k = n.chars := by
  unfold layDigits
  split
  · split
    · refine ⟨⟨['0'], zeros (-k - 1).toNat ++ ds, [], []⟩,
        ⟨by simp, isDigits_zeros 1, ?_, .inl rfl, isDigits_nil⟩, ?_⟩
      · exact isDigits_append (isDigits_zeros _) hds
      · simp [Numeral.chars, Numeral.fractionChars, Numeral.powerChars, hne]
    · dsimp only
      split
      · refine ⟨⟨ds ++ zeros (k.toNat + 1 - ds.length), ['0'], [], []⟩,
          ⟨by simp [hne], ?_, isDigits_zeros 1, .inl rfl, isDigits_nil⟩, ?_⟩
        · exact isDigits_append hds (isDigits_zeros _)
        · simp [Numeral.chars, Numeral.fractionChars, Numeral.powerChars, Layout.data]
      · rename_i hlonger
        refine ⟨⟨ds.take (k.toNat + 1), ds.drop (k.toNat + 1), [], []⟩,
          ⟨by simp [hne], hds.take _, hds.drop _, .inl rfl, isDigits_nil⟩, ?_⟩
        have hdrop : ds.drop (k.toNat + 1) ≠ [] := by
          rw [ne_eq, List.drop_eq_nil_iff]
          exact hlonger
        simp [Numeral.chars, Numeral.fractionChars, Numeral.powerChars, hdrop]
  · dsimp only
    refine ⟨⟨ds.take 1, ds.tail, if k < 0 then ['-'] else ['+'], natDigits k.natAbs⟩,
      ⟨by simp [hne], hds.take 1, ?_, ?_, isDigits_natDigits _⟩, ?_⟩
    · rw [← List.drop_one]
      exact hds.drop 1
    · split
      · exact .inr (.inl rfl)
      · exact .inr (.inr rfl)
    · simp [Numeral.chars, Numeral.fractionChars, Numeral.powerChars, natDigits_ne_nil, Layout.data]

/-- A number is printed as a numeral, behind a sign if it is negative. -/
theorem exists_numeral_toChars (n : Number) :
    ∃ m : Numeral, m.Proper ∧ (n.toChars = m.chars ∨ n.toChars = '-' :: m.chars) := by
  have hint : ∀ d : Nat, ∃ m : Numeral, m.Proper ∧ natDigits d = m.chars := fun d =>
    ⟨⟨natDigits d, [], [], []⟩,
      ⟨natDigits_ne_nil d, isDigits_natDigits d, isDigits_nil, .inl rfl, isDigits_nil⟩,
      by simp [Numeral.chars, Numeral.fractionChars, Numeral.powerChars]⟩
  cases n with
  | int i =>
    obtain ⟨m, hm, hchars⟩ := hint i.natAbs
    refine ⟨m, hm, ?_⟩
    rw [toChars, intDigits, ← hchars]
    split
    · exact .inr rfl
    · exact .inl rfl
  | float x =>
    have hbody : ∃ m : Numeral, m.Proper ∧
        (if x.isZero then '0' :: Layout.data.wholeEnding.toList
          else layDigits Layout.data (natDigits x.shortest.digits)
            (x.shortest.exponent + (natDigits x.shortest.digits).length - 1)) = m.chars := by
      split
      · exact ⟨⟨['0'], ['0'], [], []⟩,
          ⟨by simp, isDigits_zeros 1, isDigits_zeros 1, .inl rfl, isDigits_nil⟩, rfl⟩
      · exact exists_numeral_layDigits (natDigits_ne_nil _) (isDigits_natDigits _) _
    obtain ⟨m, hm, hchars⟩ := hbody
    refine ⟨m, hm, ?_⟩
    rw [← hchars]
    show x.layOut Layout.data = _ ∨ x.layOut Layout.data = _
    unfold Double.layOut
    cases x.negative with
    | true => exact .inr rfl
    | false => exact .inl rfl

/-- What is read of the text of a number, if it can be read. -/
def reread? (n : Number) : Option Number :=
  (Json.readSigned n.toChars).map (·.1)

end Number

namespace Json

open Number

theorem exists_digit_of_proper {m : Numeral} (hm : m.Proper) :
    ∃ c cs, m.chars = c :: cs ∧ (digitValue? c).isSome = true := by
  obtain ⟨c, ds, hds⟩ := List.exists_cons_of_ne_nil hm.whole_ne_nil
  exact ⟨c, _, by rw [Numeral.chars, hds, List.cons_append], hm.whole c (by simp [hds])⟩

/-- What is read of a printed number does not depend on what follows it. -/
theorem readSigned_toChars (n : Number) {rest : List Char} (h : EndsNumeral rest) :
    readSigned (n.toChars ++ rest) = n.reread?.map fun x => (x, rest) := by
  obtain ⟨m, hm, hchars⟩ := exists_numeral_toChars n
  obtain ⟨c, cs, hhead, hdigit⟩ := exists_digit_of_proper hm
  have hplain : ∀ rest, readSigned (m.chars ++ rest) = readNumber false (m.chars ++ rest) := by
    intro rest
    rw [hhead, List.cons_append, readSigned]
    intro cs' heq
    exact ne_of_digit hdigit (by decide) (List.cons_eq_cons.1 heq).1
  have hends : EndsNumeral [] := by simp [EndsNumeral]
  rcases hchars with hchars | hchars
  · obtain ⟨x, hx⟩ := readNumber_append hm false
    have hself := hplain []
    rw [hx [] hends, List.append_nil] at hself
    rw [reread?, hchars, hself, hplain, hx rest h]
    cases x <;> rfl
  · obtain ⟨x, hx⟩ := readNumber_append hm true
    have hself := hx [] hends
    rw [List.append_nil] at hself
    rw [reread?, hchars, List.cons_append, readSigned, readSigned, hself, hx rest h]
    cases x <;> rfl

/-- The first character of a printed number. -/
theorem exists_head_toChars (n : Number) :
    ∃ c cs, n.toChars = c :: cs ∧ (c = '-' ∨ (digitValue? c).isSome = true) := by
  obtain ⟨m, hm, hchars⟩ := exists_numeral_toChars n
  obtain ⟨c, cs, hhead, hdigit⟩ := exists_digit_of_proper hm
  rcases hchars with hchars | hchars
  · exact ⟨c, cs, hchars.trans hhead, .inr hdigit⟩
  · exact ⟨'-', m.chars, hchars, .inl rfl⟩

end Json

end Scaffold
