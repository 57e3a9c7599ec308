import Mathlib
import Scaffold.Proofs.Json.Member
import Scaffold.Proofs.Json.Numeral

/-!
# Reading what was printed

A printed value reads back as itself, but for the numbers in it: of these is read what their own
texts say. So it is for values that nest less deep than can be read.
-/

namespace Scaffold.Json

open Number (EndsNumeral)

/-! ## Strings -/

theorem hexValue?_hexDigit {d : Nat} (h : d < 16) : hexValue? (Text.hexDigit d) = some d := by
  have hall : ∀ d < 16, hexValue? (Text.hexDigit d) = some d := by decide
  exact hall d h

theorem unicodeEscape?_control {c : Char} (h : c.toNat < 32) (rest : List Char) :
    unicodeEscape? ('0' :: '0' :: Text.hexDigit (c.toNat / 16) :: Text.hexDigit (c.toNat % 16) ::
      rest) = some (c, rest) := by
  have hzero : hexValue? '0' = some 0 := by decide
  have hhigh := hexValue?_hexDigit (show c.toNat / 16 < 16 by omega)
  have hlow := hexValue?_hexDigit (show c.toNat % 16 < 16 by omega)
  have hvalue : ((0 * 16 + 0) * 16 + c.toNat / 16) * 16 + c.toNat % 16 = c.toNat := by omega
  have hsmall : ¬ (0xDC00 ≤ c.toNat ∧ c.toNat ≤ 0xDFFF) := by omega
  have hsmall' : ¬ (0xD800 ≤ c.toNat ∧ c.toNat ≤ 0xDBFF) := by omega
  simp only [unicodeEscape?, hexFour?, hzero, hhigh, hlow, hvalue, hsmall, hsmall', if_false,
    Char.ofNat_toNat]

theorem readString_escapeChar (c : Char) (fuel : Nat) (acc rest : List Char) :
    readString (fuel + 1) acc (escapeChar c ++ rest) = readString fuel (c :: acc) rest := by
  have hofNat : ∀ n, c.toNat = n → c = Char.ofNat n := by
    rintro n rfl
    exact (Char.ofNat_toNat c).symm
  unfold escapeChar
  split
  · subst_vars
    simp [readString, plainEscape?]
  · rename_i hquote
    split
    · subst_vars
      simp [readString, plainEscape?]
    · rename_i hback
      split
      · rename_i hplain
        have hplain' : ¬ c.toNat < 32 := by omega
        simp [readString, hquote, hback, hplain']
      · rename_i hcontrol
        split
        · subst_vars
          simp [readString, plainEscape?]
        · split
          · subst_vars
            simp [readString, plainEscape?]
          · split
            · subst_vars
              simp [readString, plainEscape?]
            · split
              · rename_i hbell
                simp [readString, plainEscape?, hofNat _ hbell]
              · split
                · rename_i hfeed
                  simp [readString, plainEscape?, hofNat _ hfeed]
                · simp [readString, unicodeEscape?_control (show c.toNat < 32 by omega)]

/-- A string is read as far as its closing quote. -/
theorem readString_escape (cs acc rest : List Char) {fuel : Nat} (h : cs.length < fuel) :
    readString fuel acc (escape cs ++ '"' :: rest) = some (acc.reverse ++ cs, rest) := by
  induction cs generalizing acc fuel with
  | nil =>
    obtain ⟨fuel, rfl⟩ := Nat.exists_eq_succ_of_ne_zero (Nat.ne_of_gt h)
    simp [escape, readString]
  | cons c cs ih =>
    obtain ⟨fuel, rfl⟩ := Nat.exists_eq_succ_of_ne_zero (Nat.ne_of_gt (Nat.zero_lt_of_lt h))
    have hless : cs.length < fuel := by simpa using h
    rw [escape, List.append_assoc, readString_escapeChar, ih (c :: acc) hless]
    simp

theorem length_le_length_escape (cs : List Char) : cs.length ≤ (escape cs).length := by
  induction cs with
  | nil => exact le_rfl
  | cons c cs ih =>
    have hone : 1 ≤ (escapeChar c).length := by
      unfold escapeChar
      split_ifs <;> simp
    rw [escape, List.length_append, List.length_cons]
    omega

theorem readString_quote (s : String) (rest : List Char) :
    readString ((escape s.toList ++ '"' :: rest).length + 1) [] (escape s.toList ++ '"' :: rest) =
      some (s.toList, rest) := by
  have hlength := length_le_length_escape s.toList
  rw [readString_escape s.toList [] rest]
  · rfl
  · rw [List.length_append]
    omega

/-! ## Blanks -/

def Blank (ws : List Char) : Prop :=
  ∀ c ∈ ws, isSpace c = true

variable {ws cs rest indent : List Char}

theorem blank_nil : Blank [] := by
  simp [Blank]

theorem skipSpace_append (h : Blank ws) (cs : List Char) : skipSpace (ws ++ cs) = skipSpace cs :=
  List.dropWhile_append_of_pos h

theorem skipSpace_of_head {c : Char} (h : isSpace c = false) (cs : List Char) :
    skipSpace (c :: cs) = c :: cs := by
  simp [skipSpace, h]

theorem blank_lineBreak (h : Blank indent) (d : Nat) : Blank (lineBreak indent d) := by
  intro c hc
  rcases List.mem_cons.1 hc with rfl | hc
  · decide
  · obtain ⟨piece, hpiece, hc⟩ := List.mem_flatten.1 hc
    rw [List.eq_of_mem_replicate hpiece] at hc
    exact h c hc

theorem readValue_of_skipSpace (fuel depth : Nat) {cs ds : List Char}
    (h : skipSpace cs = skipSpace ds) : readValue fuel depth cs = readValue fuel depth ds := by
  cases fuel with
  | zero => rw [readValue, readValue]
  | succ fuel => rw [readValue, readValue, h]

theorem readValue_append_blank (h : Blank ws) (fuel depth : Nat) (cs : List Char) :
    readValue fuel depth (ws ++ cs) = readValue fuel depth cs :=
  readValue_of_skipSpace fuel depth (skipSpace_append h cs)

/-! ## Spacings -/

/-- What stands between the parts of a value. -/
structure Spacing where
  /-- What stands before an item, a member or the end of a container, by its depth. -/
  line : Nat → List Char
  /-- What stands before the value of a member. -/
  gap : List Char

namespace Spacing

mutual

/-- The text of a value at a depth. -/
def chars (s : Spacing) (d : Nat) : Json → List Char
  | arr [] => ['[', ']']
  | arr (x :: xs) => '[' :: (s.line (d + 1) ++ (s.chars (d + 1) x ++ s.items d xs))
  | obj [] => ['\x7b', '\x7d']
  | obj ((k, x) :: ms) =>
    '\x7b' :: (s.line (d + 1) ++ (quote k ++ ':' :: (s.gap ++ (s.chars (d + 1) x ++
      s.members d ms))))
  | v => scalarChars v

def items (s : Spacing) (d : Nat) : List Json → List Char
  | [] => s.line d ++ [']']
  | x :: xs => ',' :: (s.line (d + 1) ++ (s.chars (d + 1) x ++ s.items d xs))

def members (s : Spacing) (d : Nat) : List (String × Json) → List Char
  | [] => s.line d ++ ['\x7d']
  | (k, x) :: ms =>
    ',' :: (s.line (d + 1) ++ (quote k ++ ':' :: (s.gap ++ (s.chars (d + 1) x ++
      s.members d ms))))

end

/-- Nothing but blanks stands between the parts. -/
structure IsBlank (s : Spacing) : Prop where
  line (d : Nat) : Blank (s.line d)
  gap : Blank s.gap

def none : Spacing := ⟨fun _ => [], []⟩

def lines (indent : List Char) : Spacing := ⟨lineBreak indent, [' ']⟩

theorem isBlank_none : none.IsBlank :=
  ⟨fun _ => blank_nil, blank_nil⟩

theorem isBlank_lines (h : Blank indent) : (lines indent).IsBlank :=
  ⟨blank_lineBreak h, by simp [lines, Blank, isSpace]⟩

mutual

theorem chars_none (v : Json) (d : Nat) : none.chars d v = compactChars v := by
  match v with
  | .null | .bool _ | .num _ | .str _ => rfl
  | arr [] | obj [] => rfl
  | arr (x :: xs) =>
    rw [chars, compactChars, chars_none x, items_none xs]
    rfl
  | obj ((k, x) :: ms) =>
    rw [chars, compactChars, chars_none x, members_none ms]
    rfl

theorem items_none (xs : List Json) (d : Nat) : none.items d xs = compactItems xs := by
  match xs with
  | [] => rfl
  | x :: xs =>
    rw [items, compactItems, chars_none x, items_none xs]
    rfl

theorem members_none (ms : List (String × Json)) (d : Nat) :
    none.members d ms = compactMembers ms := by
  match ms with
  | [] => rfl
  | (k, x) :: ms =>
    rw [members, compactMembers, chars_none x, members_none ms]
    rfl

end

mutual

theorem chars_lines (v : Json) (d : Nat) :
    (lines indent).chars d v = prettyChars indent d v := by
  match v with
  | .null | .bool _ | .num _ | .str _ => rfl
  | arr [] | obj [] => rfl
  | arr (x :: xs) =>
    rw [chars, prettyChars, chars_lines x, items_lines xs, List.append_assoc]
    rfl
  | obj ((k, x) :: ms) =>
    rw [chars, prettyChars, chars_lines x, members_lines ms, List.append_assoc]
    rfl

theorem items_lines (xs : List Json) (d : Nat) :
    (lines indent).items d xs = prettyItems indent d xs := by
  match xs with
  | [] => rfl
  | x :: xs =>
    rw [items, prettyItems, chars_lines x, items_lines xs, List.append_assoc]
    rfl

theorem members_lines (ms : List (String × Json)) (d : Nat) :
    (lines indent).members d ms = prettyMembers indent d ms := by
  match ms with
  | [] => rfl
  | (k, x) :: ms =>
    rw [members, prettyMembers, chars_lines x, members_lines ms, List.append_assoc]
    rfl

end

end Spacing

/-! ## Values -/

mutual

/-- What is read of the text of a value where at most `depth` containers may open. -/
def rereadAt? : Json → Nat → Option Json
  | num n, _ => n.reread?.map num
  | arr _, 0 => none
  | arr xs, depth + 1 => (rereadItems? xs depth).map arr
  | obj _, 0 => none
  | obj ms, depth + 1 => (rereadMembers? ms depth).map fun ns => obj (Members.ofList ns)
  | v, _ => some v

def rereadItems? : List Json → Nat → Option (List Json)
  | [], _ => some []
  | x :: xs, depth =>
    (rereadAt? x depth).bind fun y => (rereadItems? xs depth).map fun ys => y :: ys

def rereadMembers? : List (String × Json) → Nat → Option (List (String × Json))
  | [], _ => some []
  | (k, x) :: ms, depth =>
    (rereadAt? x depth).bind fun y => (rereadMembers? ms depth).map fun ns => (k, y) :: ns

end

variable {gaps : Spacing}

/-- The first character of a printed value is no blank and closes nothing. -/
theorem exists_head_chars (gaps : Spacing) (d : Nat) (v : Json) :
    ∃ c cs, gaps.chars d v = c :: cs ∧ isSpace c = false ∧ c ≠ ']' := by
  cases v with
  | null => exact ⟨'n', _, rfl, by decide, by decide⟩
  | bool b =>
    cases b with
    | true => exact ⟨'t', _, rfl, by decide, by decide⟩
    | false => exact ⟨'f', _, rfl, by decide, by decide⟩
  | num n =>
    obtain ⟨c, cs, hchars, hc⟩ := exists_head_toChars n
    refine ⟨c, cs, hchars, ?_⟩
    rcases hc with rfl | hc
    · decide
    · have hne := fun e => Number.ne_of_digit (e := e) hc
      refine ⟨?_, hne ']' (by decide)⟩
      simp [isSpace, hne ' ' (by decide), hne '\n' (by decide), hne '\t' (by decide),
        hne '\r' (by decide)]
  | str s => exact ⟨'"', _, rfl, by decide, by decide⟩
  | arr xs => cases xs with
    | nil => exact ⟨'[', _, rfl, by decide, by decide⟩
    | cons x xs => exact ⟨'[', _, rfl, by decide, by decide⟩
  | obj ms => cases ms with
    | nil => exact ⟨'\x7b', _, rfl, by decide, by decide⟩
    | cons m ms => exact ⟨'\x7b', _, rfl, by decide, by decide⟩

theorem skipSpace_chars (gaps : Spacing) (d : Nat) (v : Json) (rest : List Char) :
    skipSpace (gaps.chars d v ++ rest) = gaps.chars d v ++ rest := by
  obtain ⟨c, cs, hhead, hspace, -⟩ := exists_head_chars gaps d v
  rw [hhead, List.cons_append, skipSpace_of_head hspace]

theorem Blank.endsNumeral_append (h : Blank ws) (hrest : EndsNumeral rest) :
    EndsNumeral (ws ++ rest) := by
  cases ws with
  | nil => exact hrest
  | cons c ws =>
    intro e he
    obtain rfl : c = e := by simpa using he
    have hspace := h c List.mem_cons_self
    simp only [isSpace, Bool.or_eq_true, beq_iff_eq] at hspace
    rcases hspace with ((rfl | rfl) | rfl) | rfl <;> decide

theorem endsNumeral_cons {c : Char} (hc : c = ',' ∨ c = ']' ∨ c = '\x7d') (rest : List Char) :
    EndsNumeral (c :: rest) := by
  intro e he
  obtain rfl : c = e := by simpa using he
  rcases hc with rfl | rfl | rfl <;> decide

theorem endsNumeral_items (hgaps : gaps.IsBlank) (d : Nat) (xs : List Json) (rest : List Char) :
    EndsNumeral (gaps.items d xs ++ rest) := by
  cases xs with
  | nil =>
    rw [Spacing.items, List.append_assoc]
    exact (hgaps.line d).endsNumeral_append (endsNumeral_cons (by simp) rest)
  | cons x xs => exact endsNumeral_cons (by simp) _

theorem endsNumeral_members (hgaps : gaps.IsBlank) (d : Nat) (ms : Members)
    (rest : List Char) : EndsNumeral (gaps.members d ms ++ rest) := by
  cases ms with
  | nil =>
    rw [Spacing.members, List.append_assoc]
    exact (hgaps.line d).endsNumeral_append (endsNumeral_cons (by simp) rest)
  | cons m ms => exact endsNumeral_cons (by simp) _

theorem readValue_number (n : Number) (h : EndsNumeral rest) (fuel depth : Nat) :
    readValue (fuel + 1) depth (n.toChars ++ rest) =
      (n.reread?.map num).map fun w => (w, rest) := by
  obtain ⟨c, cs, hchars, hc⟩ := exists_head_toChars n
  have hread := readSigned_toChars n h
  have hsigned : readValue (fuel + 1) depth (n.toChars ++ rest) =
      (readSigned (n.toChars ++ rest)).map fun r => (num r.1, r.2) := by
    rw [hchars, List.cons_append, readValue]
    rcases hc with rfl | hc
    · simp [skipSpace_of_head, isSpace, readSigned]
    · have hne := fun e => Number.ne_of_digit (e := e) hc
      rw [skipSpace_of_head (by simp [isSpace, hne ' ' (by decide), hne '\n' (by decide),
        hne '\t' (by decide), hne '\r' (by decide)])]
      simp [hne 'n' (by decide), hne 't' (by decide), hne 'f' (by decide), hne '-' (by decide),
        hne '"' (by decide), hne '[' (by decide), hne '\x7b' (by decide), readSigned]
  rw [hsigned, hread]
  cases n.reread? <;> rfl

theorem readValue_quote (s : String) (fuel depth : Nat) (rest : List Char) :
    readValue (fuel + 1) depth (quote s ++ rest) = some (str s, rest) := by
  have hquote : quote s ++ rest = '"' :: (escape s.toList ++ '"' :: rest) := by simp [quote]
  rw [hquote, readValue, skipSpace_of_head (by decide)]
  simp only [Char.reduceEq, if_false, if_true, readString_quote, Option.map_some,
    String.ofList_toList]

/-- A member is read up to its value. -/
theorem readMember_quote (hws : Blank ws) {gap : List Char} (hgap : Blank gap) (k : String)
    (fuel depth : Nat) (cs : List Char) :
    readMember (fuel + 1) depth (ws ++ (quote k ++ ':' :: (gap ++ cs))) =
      (readValue fuel depth cs).map fun r => (k, r.1, r.2) := by
  have hspace : readValue fuel depth (gap ++ cs) = readValue fuel depth cs :=
    readValue_append_blank hgap fuel depth cs
  have hquote : quote k ++ ':' :: (gap ++ cs) =
      '"' :: (escape k.toList ++ '"' :: (':' :: (gap ++ cs))) := by
    simp [quote]
  rw [readMember, skipSpace_append hws, hquote, skipSpace_of_head (by decide)]
  simp only [readString_quote, skipSpace_of_head (show isSpace ':' = false by decide), hspace,
    String.ofList_toList]
  cases readValue fuel depth cs <;> rfl

/-! One step of the reader in each place of a container. -/

theorem readValue_bracket (hws : Blank ws) (hspace : skipSpace cs = cs)
    (hopen : ∀ rest, cs ≠ ']' :: rest) (fuel depth : Nat) :
    readValue (fuel + 1) (depth + 1) ('[' :: (ws ++ cs)) =
      (readValue fuel depth cs).bind fun r => readItems fuel depth [r.1] r.2 := by
  rw [readValue, skipSpace_of_head (by decide)]
  simp only [Char.reduceEq, if_false, if_true, skipSpace_append hws, hspace,
    readValue_append_blank hws]
  cases readValue fuel depth cs <;> rfl

theorem readValue_brace (hws : Blank ws) {gap : List Char} (hgap : Blank gap) (k : String)
    (fuel depth : Nat) (cs : List Char) :
    readValue (fuel + 2) (depth + 1) ('\x7b' :: (ws ++ (quote k ++ ':' :: (gap ++ cs)))) =
      (readValue fuel depth cs).bind fun r => readMembers (fuel + 1) depth [(k, r.1)] r.2 := by
  have hmember := readMember_quote hws hgap k fuel depth cs
  have hopen : skipSpace (ws ++ (quote k ++ ':' :: (gap ++ cs))) =
      quote k ++ ':' :: (gap ++ cs) := by
    rw [skipSpace_append hws, quote, List.cons_append, skipSpace_of_head (by decide)]
  rw [readValue, skipSpace_of_head (by decide)]
  simp only [Char.reduceEq, if_false, if_true, hopen, hmember]
  split
  · rename_i heq
    simp [quote] at heq
  · cases readValue fuel depth cs <;> rfl

theorem readItems_close (hws : Blank ws) (fuel depth : Nat) (acc : List Json) (rest : List Char) :
    readItems (fuel + 1) depth acc (ws ++ ']' :: rest) = some (arr acc.reverse, rest) := by
  rw [readItems, skipSpace_append hws, skipSpace_of_head (by decide)]
  rfl

theorem readItems_comma (hws : Blank ws) (fuel depth : Nat) (acc : List Json) (cs : List Char) :
    readItems (fuel + 1) depth acc (',' :: (ws ++ cs)) =
      (readValue fuel depth cs).bind fun r => readItems fuel depth (r.1 :: acc) r.2 := by
  rw [readItems, skipSpace_of_head (by decide)]
  simp only [readValue_append_blank hws]
  cases readValue fuel depth cs <;> rfl

theorem readMembers_close (hws : Blank ws) (fuel depth : Nat) (acc : Members) (rest : List Char) :
    readMembers (fuel + 1) depth acc (ws ++ '\x7d' :: rest) = some (obj acc, rest) := by
  rw [readMembers, skipSpace_append hws, skipSpace_of_head (by decide)]
  rfl

theorem readMembers_comma (hws : Blank ws) {gap : List Char} (hgap : Blank gap) (k : String)
    (fuel depth : Nat) (acc : Members) (cs : List Char) :
    readMembers (fuel + 2) depth acc (',' :: (ws ++ (quote k ++ ':' :: (gap ++ cs)))) =
      (readValue fuel depth cs).bind fun r =>
        readMembers (fuel + 1) depth (acc.insert k r.1) r.2 := by
  rw [readMembers, skipSpace_of_head (by decide)]
  simp only [readMember_quote hws hgap]
  cases readValue fuel depth cs <;> rfl

/-! The same steps in the text of a container: its first part is read, and the rest after it. -/

theorem readValue_arr_cons (hgaps : gaps.IsBlank) (x : Json) (xs : List Json)
    (fuel depth d : Nat) (rest : List Char) :
    readValue (fuel + 1) (depth + 1) (gaps.chars d (arr (x :: xs)) ++ rest) =
      (readValue fuel depth (gaps.chars (d + 1) x ++ (gaps.items d xs ++ rest))).bind fun r =>
        readItems fuel depth [r.1] r.2 := by
  -- the array is not taken for an empty one
  have hopen : ∀ after, gaps.chars (d + 1) x ++ (gaps.items d xs ++ rest) ≠ ']' :: after := by
    intro after heq
    obtain ⟨c, cs, hc, -, hopen⟩ := exists_head_chars gaps (d + 1) x
    rw [hc, List.cons_append] at heq
    exact hopen (List.cons_eq_cons.1 heq).1
  rw [Spacing.chars, List.cons_append, List.append_assoc, List.append_assoc]
  exact readValue_bracket (hgaps.line (d + 1)) (skipSpace_chars ..) hopen fuel depth

theorem readItems_items_cons (hgaps : gaps.IsBlank) (x : Json) (xs acc : List Json)
    (fuel depth d : Nat) (rest : List Char) :
    readItems (fuel + 1) depth acc (gaps.items d (x :: xs) ++ rest) =
      (readValue fuel depth (gaps.chars (d + 1) x ++ (gaps.items d xs ++ rest))).bind fun r =>
        readItems fuel depth (r.1 :: acc) r.2 := by
  rw [Spacing.items, List.cons_append, List.append_assoc, List.append_assoc]
  exact readItems_comma (hgaps.line (d + 1)) fuel depth acc _

theorem readValue_obj_cons (hgaps : gaps.IsBlank) (k : String) (x : Json)
    (ms : List (String × Json)) (fuel depth d : Nat) (rest : List Char) :
    readValue (fuel + 2) (depth + 1) (gaps.chars d (obj ((k, x) :: ms)) ++ rest) =
      (readValue fuel depth (gaps.chars (d + 1) x ++ (gaps.members d ms ++ rest))).bind fun r =>
        readMembers (fuel + 1) depth [(k, r.1)] r.2 := by
  rw [Spacing.chars]
  simp only [List.cons_append, List.append_assoc]
  exact readValue_brace (hgaps.line (d + 1)) hgaps.gap k fuel depth _

theorem readMembers_members_cons (hgaps : gaps.IsBlank) (k : String) (x : Json)
    (ms : List (String × Json)) (acc : Members) (fuel depth d : Nat) (rest : List Char) :
    readMembers (fuel + 2) depth acc (gaps.members d ((k, x) :: ms) ++ rest) =
      (readValue fuel depth (gaps.chars (d + 1) x ++ (gaps.members d ms ++ rest))).bind fun r =>
        readMembers (fuel + 1) depth (acc.insert k r.1) r.2 := by
  rw [Spacing.members]
  simp only [List.cons_append, List.append_assoc]
  exact readMembers_comma (hgaps.line (d + 1)) hgaps.gap k fuel depth acc _

mutual

theorem readValue_chars (hgaps : gaps.IsBlank) (v : Json) (fuel depth d : Nat)
    {rest : List Char} (hfuel : (gaps.chars d v).length ≤ fuel) (hrest : EndsNumeral rest) :
    readValue fuel depth (gaps.chars d v ++ rest) =
      (rereadAt? v depth).map fun w => (w, rest) := by
  -- every step of the reader takes fuel and at least one character of the text
  obtain ⟨c, cs, hhead, -⟩ := exists_head_chars gaps d v
  obtain ⟨fuel, rfl⟩ : ∃ n, fuel = n + 1 := by
    refine Nat.exists_eq_succ_of_ne_zero ?_
    rintro rfl
    simp [hhead] at hfuel
  match v with
  | null => simp [Spacing.chars, scalarChars, readValue, skipSpace, isSpace, expect, rereadAt?]
  | bool true =>
    simp [Spacing.chars, scalarChars, readValue, skipSpace, isSpace, expect, rereadAt?]
  | bool false =>
    simp [Spacing.chars, scalarChars, readValue, skipSpace, isSpace, expect, rereadAt?]
  | num n => exact readValue_number n hrest fuel depth
  | str s => exact readValue_quote s fuel depth rest
  | arr [] =>
    cases depth with
    | zero => simp [Spacing.chars, readValue, skipSpace, isSpace, rereadAt?]
    | succ depth => simp [Spacing.chars, readValue, skipSpace, isSpace, rereadAt?, rereadItems?]
  | arr (x :: xs) =>
    cases depth with
    | zero => simp [Spacing.chars, readValue, skipSpace, isSpace, rereadAt?]
    | succ depth =>
      simp only [Spacing.chars, List.length_cons, List.length_append] at hfuel
      have hx := readValue_chars hgaps x fuel depth (d + 1) (by omega)
        (endsNumeral_items hgaps d xs rest)
      have hxs := fun y => readItems_items hgaps xs [y] fuel depth d rest (by omega)
      rw [readValue_arr_cons hgaps, hx, rereadAt?, rereadItems?]
      cases rereadAt? x depth with
      | none => rfl
      | some y =>
        refine (hxs y).trans ?_
        cases rereadItems? xs depth <;> rfl
  | obj [] =>
    cases depth with
    | zero => simp [Spacing.chars, readValue, skipSpace, isSpace, rereadAt?]
    | succ depth =>
      simp [Spacing.chars, readValue, skipSpace, isSpace, rereadAt?, rereadMembers?,
        Members.ofList, Members.insertAll]
  | obj ((k, x) :: ms) =>
    cases depth with
    | zero => simp [Spacing.chars, readValue, skipSpace, isSpace, rereadAt?]
    | succ depth =>
      simp only [Spacing.chars, List.length_cons, List.length_append] at hfuel
      obtain ⟨fuel, rfl⟩ : ∃ n, fuel = n + 1 := Nat.exists_eq_succ_of_ne_zero (by omega)
      have hx := readValue_chars hgaps x fuel depth (d + 1) (by omega)
        (endsNumeral_members hgaps d ms rest)
      have hms := fun y =>
        readMembers_members hgaps ms [(k, y)] (fuel + 1) depth d rest (by omega)
      rw [readValue_obj_cons hgaps, hx, rereadAt?, rereadMembers?]
      cases rereadAt? x depth with
      | none => rfl
      | some y =>
        refine (hms y).trans ?_
        cases rereadMembers? ms depth <;> rfl

theorem readItems_items (hgaps : gaps.IsBlank) (xs acc : List Json) (fuel depth d : Nat)
    (rest : List Char) (hfuel : (gaps.items d xs).length ≤ fuel) :
    readItems fuel depth acc (gaps.items d xs ++ rest) =
      (rereadItems? xs depth).map fun ys => (arr (acc.reverse ++ ys), rest) := by
  match xs with
  | [] =>
    simp only [Spacing.items, List.length_append, List.length_singleton] at hfuel
    obtain ⟨fuel, rfl⟩ : ∃ n, fuel = n + 1 := Nat.exists_eq_succ_of_ne_zero (by omega)
    rw [Spacing.items, List.append_assoc, List.singleton_append, readItems_close (hgaps.line d),
      rereadItems?, Option.map_some, List.append_nil]
  | x :: xs =>
    simp only [Spacing.items, List.length_cons, List.length_append] at hfuel
    obtain ⟨fuel, rfl⟩ : ∃ n, fuel = n + 1 := Nat.exists_eq_succ_of_ne_zero (by omega)
    have hx := readValue_chars hgaps x fuel depth (d + 1) (by omega)
      (endsNumeral_items hgaps d xs rest)
    have hxs := fun y => readItems_items hgaps xs (y :: acc) fuel depth d rest (by omega)
    rw [readItems_items_cons hgaps, hx, rereadItems?]
    cases rereadAt? x depth with
    | none => rfl
    | some y =>
      refine (hxs y).trans ?_
      cases rereadItems? xs depth <;> simp

theorem readMembers_members (hgaps : gaps.IsBlank) (ms : List (String × Json))
    (acc : Members) (fuel depth d : Nat) (rest : List Char)
    (hfuel : (gaps.members d ms).length ≤ fuel) :
    readMembers fuel depth acc (gaps.members d ms ++ rest) =
      (rereadMembers? ms depth).map fun ns => (obj (acc.insertAll ns), rest) := by
  match ms with
  | [] =>
    simp only [Spacing.members, List.length_append, List.length_singleton] at hfuel
    obtain ⟨fuel, rfl⟩ : ∃ n, fuel = n + 1 := Nat.exists_eq_succ_of_ne_zero (by omega)
    rw [Spacing.members, List.append_assoc, List.singleton_append,
      readMembers_close (hgaps.line d), rereadMembers?, Option.map_some]
    rfl
  | (k, x) :: ms =>
    simp only [Spacing.members, List.length_cons, List.length_append] at hfuel
    obtain ⟨fuel, rfl⟩ : ∃ n, fuel = n + 2 := ⟨fuel - 2, by omega⟩
    have hx := readValue_chars hgaps x fuel depth (d + 1) (by omega)
      (endsNumeral_members hgaps d ms rest)
    have hms := fun y =>
      readMembers_members hgaps ms (acc.insert k y) (fuel + 1) depth d rest (by omega)
    rw [readMembers_members_cons hgaps, hx, rereadMembers?]
    cases rereadAt? x depth with
    | none => rfl
    | some y =>
      refine (hms y).trans ?_
      cases rereadMembers? ms depth <;> rfl

end

/-- A printed value, with blanks behind it, is read as what its numbers make of it. -/
theorem parseChars_chars (hgaps : gaps.IsBlank) (hws : Blank ws) (v : Json) :
    parseChars (gaps.chars 0 v ++ ws) = rereadAt? v depthLimit := by
  have hend : skipSpace ws = [] := by
    rw [← List.append_nil ws, skipSpace_append hws]
    rfl
  have hnumeral : EndsNumeral ws := by
    have happend := hws.endsNumeral_append (show EndsNumeral [] by simp [EndsNumeral])
    rwa [List.append_nil] at happend
  rw [parseChars, readValue_chars hgaps v _ _ 0 (by simp; omega) hnumeral]
  cases rereadAt? v depthLimit with
  | none => rfl
  | some w => simp [hend]

theorem parseChars_prettyChars (hindent : Blank indent) (hws : Blank ws) (v : Json) :
    parseChars (prettyChars indent 0 v ++ ws) = rereadAt? v depthLimit := by
  rw [← Spacing.chars_lines]
  exact parseChars_chars (Spacing.isBlank_lines hindent) hws v

theorem parse?_compact (v : Json) : parse? v.compact = rereadAt? v depthLimit := by
  have hchars := parseChars_chars Spacing.isBlank_none blank_nil v
  rw [List.append_nil, Spacing.chars_none] at hchars
  rw [parse?, compact, String.toList_ofList, hchars]

theorem parse?_pretty_append {indent tail : String} (hindent : Blank indent.toList)
    (htail : Blank tail.toList) (v : Json) :
    parse? (v.pretty indent ++ tail) = rereadAt? v depthLimit := by
  rw [parse?, pretty, String.toList_append, String.toList_ofList,
    parseChars_prettyChars hindent htail]

/-! ## Members -/

theorem rereadMembers?_cons_eq_some {k : String} {x : Json} {ms ns : Members} {depth : Nat} :
    rereadMembers? ((k, x) :: ms) depth = some ns ↔
      ∃ y rest, rereadAt? x depth = some y ∧ rereadMembers? ms depth = some rest ∧
        ns = (k, y) :: rest := by
  simp only [rereadMembers?, Option.bind_eq_some_iff, Option.map_eq_some_iff]
  constructor
  · rintro ⟨y, hy, rest, hrest, rfl⟩
    exact ⟨y, rest, hy, hrest, rfl⟩
  · rintro ⟨y, rest, hy, hrest, rfl⟩
    exact ⟨y, hy, rest, hrest, rfl⟩

theorem keys_of_rereadMembers? {ms ns : Members} {depth : Nat}
    (h : rereadMembers? ms depth = some ns) : ns.keys = ms.keys := by
  induction ms generalizing ns with
  | nil =>
    obtain rfl : [] = ns := by simpa [rereadMembers?] using h
    rfl
  | cons m ms ih =>
    obtain ⟨k, x⟩ := m
    obtain ⟨y, rest, -, hrest, rfl⟩ := rereadMembers?_cons_eq_some.1 h
    exact congrArg (k :: ·) (ih hrest)

theorem rereadMembers?_eq_self {ms : Members} {depth : Nat}
    (h : ∀ m ∈ ms, m.2.rereadAt? depth = some m.2) : rereadMembers? ms depth = some ms := by
  induction ms with
  | nil => rfl
  | cons m ms ih =>
    rw [rereadMembers?, h m (by simp), ih fun n hn => h n (List.mem_cons_of_mem m hn)]
    rfl

/-- Members are read each for itself. -/
theorem find?_of_rereadMembers? {ms ns : Members} {depth : Nat}
    (h : rereadMembers? ms depth = some ns) (f : String) :
    ns.find? f = (ms.find? f).bind fun v => rereadAt? v depth := by
  induction ms generalizing ns with
  | nil =>
    obtain rfl : [] = ns := by simpa [rereadMembers?] using h
    rfl
  | cons m ms ih =>
    obtain ⟨k, x⟩ := m
    obtain ⟨y, rest, hy, hrest, rfl⟩ := rereadMembers?_cons_eq_some.1 h
    by_cases hk : k = f
    · simp [Members.find?, hk, hy]
    · simp [Members.find?, hk, ih hrest]

/-- An object whose members are in order is read as an object with members of the same names. -/
theorem rereadAt?_obj {ms : Members} (h : ms.Sorted) (depth : Nat) :
    rereadAt? (obj ms) (depth + 1) = (rereadMembers? ms depth).map obj := by
  rw [rereadAt?]
  cases hread : rereadMembers? ms depth with
  | none => rfl
  | some ns =>
    have hsorted := h.of_keys (keys_of_rereadMembers? hread)
    rw [Option.map_some, Option.map_some, Members.ofList_of_sorted hsorted]

end Scaffold.Json
