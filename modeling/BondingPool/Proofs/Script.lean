import Mathlib
import BondingPool.Proofs.Answer
import BondingPool.Proofs.Trimming
import BondingPool.Quote.Order
import BondingPool.Proofs.Numeral

/-!
# What the lines of a replay say

A line is passed over, or holds an order, or is malformed. What is read of a text is one order for each
line that is not passed over, with the number of that line, up to the first malformed line.

A line says nothing or one order, and what it says is a matter of its form alone: blanks, a comment, or a
word and a numeral around a comma. A line is read as what it says, and is malformed if it says neither. So a
replay's lines are read up to the first malformed one, each order with the number of its line.
-/

namespace BondingPool

/-! ### Lines that orders are read from -/

namespace Quote

variable {line : List Char} {number : ℕ} {order : Order} {orders : List Order}
  {fault : Option OrderFault} {lines : List (List Char)}

/-- Nothing but blanks, or `#` before anything else. -/
def isPassed (line : List Char) : Bool :=
  match line.dropWhile Text.isBlank with
  | [] => true
  | c :: _ => c == '#'

theorem isPassed_iff :
    isPassed line = true ↔
      Text.trim Text.isBlank line = [] ∨ (Text.trim Text.isBlank line).head? = some '#' := by
  rw [← List.head?_eq_none_iff, Text.head?_trim, isPassed]
  cases line.dropWhile Text.isBlank with
  | nil => simp
  | cons c rest => simp

theorem readOrder_of_isPassed (h : isPassed line = true) : readOrder number line = .ok none := by
  simp only [readOrder, if_pos (isPassed_iff.mp h)]

/-- One order of each numbered line that is not passed over, up to the line with the fault. -/
def Reads (lines : List (List Char × ℕ)) (orders : List Order) (fault : Option OrderFault) : Prop :=
  ∃ read unread, lines = read ++ unread ∧
    List.Forall₂
      (fun line order => order.line = line.2 ∧ readOrder line.2 line.1 = .ok (some order))
      (read.filter fun line => !isPassed line.1) orders ∧
    (fault = none → unread = []) ∧
    ∀ cause, fault = some cause → ∃ line rest, unread = line :: rest ∧
      isPassed line.1 = false ∧ readOrder line.2 line.1 = .error cause

end Quote

/-! ### Scripts -/

theorem Direction.ofKey?_eq_some_iff {key : String} {direction : Direction} :
    ofKey? key = some direction ↔ key = direction.key := by
  constructor
  · intro h
    rw [ofKey?] at h
    split at h
    · next hbuy =>
      cases h
      exact hbuy
    · split at h
      · next hsell =>
        cases h
        exact hsell
      · nomatch h
  · rintro rfl
    exact ofKey?_key direction

namespace Quote

open Text (IsNumeral IsTrimmed isBlank)

variable {line word numeral text : List Char} {number : ℕ} {direction : Direction} {amount : ℤ}

section Words

variable {c k : Char}

def IsWord (word : List Char) (direction : Direction) : Prop :=
  List.Forall₂ (fun c k => c = k ∨ c = k.toUpper) word direction.key.toList

theorem toLower_eq_iff (hk : k.isUpper = false) : c.toLower = k ↔ c = k ∨ c = k.toUpper := by
  constructor
  · rintro rfl
    rw [Char.toUpper_toLower_eq_toUpper]
    by_cases hupper : c.isUpper
    · have hlower := Char.not_isLower_of_isUpper hupper
      exact .inr (Char.toUpper_eq_of_not_isLower hlower).symm
    · exact .inl (Char.toLower_eq_of_not_isUpper hupper).symm
  · have hsmall := Char.toLower_eq_of_not_isUpper (Bool.not_eq_true _ ▸ hk)
    rintro (rfl | rfl)
    · exact hsmall
    · rw [Char.toLower_toUpper_eq_toLower, hsmall]

def isPlain (c : Char) : Bool := !isBlank c && c != ',' && c != '#'

theorem marks_key (direction : Direction) : ∀ k ∈ direction.key.toList,
    k.isUpper = false ∧ isPlain k = true ∧ isPlain k.toUpper = true := by
  have hall : direction.key.toList.all
      (fun k => !k.isUpper && (isPlain k && isPlain k.toUpper)) = true := by
    cases direction <;> rfl
  simpa only [List.all_eq_true, Bool.and_eq_true, Bool.not_eq_true'] using hall

theorem isWord_iff : IsWord word direction ↔ word.map Char.toLower = direction.key.toList := by
  have hkey := marks_key direction
  rw [IsWord]
  generalize direction.key.toList = letters at hkey
  induction letters generalizing word with
  | nil => rw [List.forall₂_nil_right_iff, List.map_eq_nil_iff]
  | cons k letters ih =>
    cases word with
    | nil => exact iff_of_false nofun nofun
    | cons c word =>
      obtain ⟨⟨hsmall, _⟩, hletters⟩ := List.forall_mem_cons.mp hkey
      rw [List.forall₂_cons, List.map_cons, List.cons_eq_cons, toLower_eq_iff hsmall]
      exact and_congr_right fun _ => ih hletters

theorem isPlain_of_isWord (h : IsWord word direction) : ∀ c ∈ word, isPlain c = true := by
  have hkey := marks_key direction
  rw [IsWord] at h
  generalize direction.key.toList = letters at h hkey
  induction h with
  | nil => nofun
  | cons hck _ ih =>
    obtain ⟨⟨_, hsmall, hlarge⟩, hletters⟩ := List.forall_mem_cons.mp hkey
    refine List.forall_mem_cons.mpr ⟨?_, ih hletters⟩
    rcases hck with rfl | rfl
    · exact hsmall
    · exact hlarge

theorem isPlain_of_digit? {d : ℕ} (h : Text.digit? c = some d) : isPlain c = true := by
  have hblank := Text.isBlank_of_digit? h
  have hcomma : c ≠ ',' := Text.ne_of_digit? (by decide) h
  have hhash : c ≠ '#' := Text.ne_of_digit? (by decide) h
  simp [isPlain, hblank, hcomma, hhash]

theorem isPlain_of_isDigits {digits : List Char} {n : ℕ} (h : Text.IsDigits digits n) :
    ∀ c ∈ digits, isPlain c = true := by
  intro c hc
  rcases h.mem c hc with rfl | ⟨d, hd⟩
  · decide
  · exact isPlain_of_digit? hd

theorem isPlain_of_isNumeral (h : IsNumeral numeral amount) : ∀ c ∈ numeral, isPlain c = true := by
  cases h with
  | plain h => exact isPlain_of_isDigits h
  | plus h => exact List.forall_mem_cons.mpr ⟨by decide, isPlain_of_isDigits h⟩
  | minus h => exact List.forall_mem_cons.mpr ⟨by decide, isPlain_of_isDigits h⟩

theorem IsWord.ne_nil (h : IsWord word direction) : word ≠ [] := by
  rintro rfl
  rw [IsWord, List.forall₂_nil_left_iff] at h
  cases direction <;> nomatch h

theorem ne_nil_of_isNumeral (h : IsNumeral numeral amount) : numeral ≠ [] := by
  rintro rfl
  cases h with
  | plain h =>
    obtain ⟨_, _, hfirst, _⟩ := h.exists_first
    nomatch hfirst

theorem isTrimmed_of_isPlain (h : ∀ c ∈ text, isPlain c = true) : IsTrimmed isBlank text := by
  refine Text.isTrimmed_of_forall fun c hc => ?_
  have hplain := h c hc
  rw [isPlain, Bool.and_assoc, Bool.and_eq_true] at hplain
  exact Bool.not_eq_true' _ ▸ hplain.1

theorem comma_notMem_of_isPlain (h : ∀ c ∈ text, isPlain c = true) : ',' ∉ text := fun hmem =>
  absurd (h _ hmem) (by decide)

theorem readDirection_eq_ok_iff :
    readDirection text = .ok direction ↔ IsWord (Text.trim isBlank text) direction := by
  rw [isWord_iff, readDirection]
  constructor
  · intro h
    split at h
    · next hkey =>
      cases h
      rw [← Direction.ofKey?_eq_some_iff.mp hkey, String.toList_ofList]
    · nomatch h
  · intro h
    rw [h, String.ofList_toList, Direction.ofKey?_key]

theorem integer?_of_isTrimmed (h : IsTrimmed isBlank text) :
    Text.integer? text = Text.signed? text := by
  have hstill : ∀ c, isBlank c = false → Text.isNumeralBlank c = false := by
    intro c hc
    rw [Text.isNumeralBlank, hc, Bool.false_and]
  have htrimmed : IsTrimmed Text.isNumeralBlank text :=
    ⟨fun c hc => hstill c (h.first c hc), fun c hc => hstill c (h.last c hc)⟩
  rw [Text.integer?, Text.trim_of_isTrimmed htrimmed]

end Words

section Lines

variable {a b c d : List Char} {answer : Option Order} {what : Option (Direction × ℤ)}

def Blanks (text : List Char) : Prop := ∀ c ∈ text, isBlank c = true

/-- What a line says: nothing, or one order. -/
inductive Says (IsAmount : List Char → ℤ → Prop) : List Char → Option (Direction × ℤ) → Prop
  | blank {line : List Char} (h : Blanks line) : Says IsAmount line none
  | comment {a rest : List Char} (ha : Blanks a) : Says IsAmount (a ++ '#' :: rest) none
  | order {a b c d word numeral : List Char} {direction : Direction} {amount : ℤ} (ha : Blanks a)
    (hword : IsWord word direction) (hb : Blanks b) (hc : Blanks c)
    (hnumeral : IsAmount numeral amount) (hd : Blanks d) :
    Says IsAmount (a ++ word ++ b ++ ',' :: (c ++ numeral ++ d)) (some (direction, amount))

theorem Blanks.comma_notMem (h : Blanks text) : ',' ∉ text := fun hmem =>
  absurd (h _ hmem) (by decide)

theorem not_passed_of_isPlain {first : Char} {rest : List Char} (hfirst : isPlain first = true) :
    ¬(first :: rest = [] ∨ (first :: rest).head? = some '#') := by
  rintro (hnil | hhash)
  · nomatch hnil
  · cases hhash
    exact absurd hfirst (by decide)

theorem trim_order (ha : Blanks a) (hword : IsWord word direction)
    (hnumeral : IsNumeral numeral amount) (hd : Blanks d) :
    Text.trim isBlank (a ++ word ++ b ++ ',' :: (c ++ numeral ++ d)) =
      word ++ b ++ ',' :: (c ++ numeral) := by
  have hw := isTrimmed_of_isPlain (isPlain_of_isWord hword)
  have hn := isTrimmed_of_isPlain (isPlain_of_isNumeral hnumeral)
  have hcore := hw.append hn hword.ne_nil (ne_nil_of_isNumeral hnumeral) (b ++ ',' :: c)
  have hpad := Text.trim_pad ha hcore hd
  simpa only [List.append_assoc, List.cons_append] using hpad

theorem pieces_order (hword : IsWord word direction) (hb : Blanks b) (hc : Blanks c)
    (hnumeral : IsNumeral numeral amount) :
    (Text.split ',' (word ++ b ++ ',' :: (c ++ numeral))).map (Text.trim isBlank) =
      [word, numeral] := by
  have hw := isPlain_of_isWord hword
  have hn := isPlain_of_isNumeral hnumeral
  have hsplit : Text.split ',' (word ++ b ++ ',' :: (c ++ numeral)) = [word ++ b, c ++ numeral] :=
    Text.split_eq_pair_iff.mpr ⟨rfl,
      List.not_mem_append (comma_notMem_of_isPlain hw) hb.comma_notMem,
      List.not_mem_append hc.comma_notMem (comma_notMem_of_isPlain hn)⟩
  have hfront : Text.trim isBlank (word ++ b) = word :=
    Text.trim_pad (List.forall_mem_nil (isBlank · = true)) (isTrimmed_of_isPlain hw) hb
  have hback : Text.trim isBlank (c ++ numeral) = numeral := by
    have hpad := Text.trim_pad hc (isTrimmed_of_isPlain hn) (List.forall_mem_nil (isBlank · = true))
    rwa [List.append_nil] at hpad
  rw [hsplit, List.map_cons, List.map_cons, List.map_nil, hfront, hback]

theorem readOrder_order (ha : Blanks a) (hword : IsWord word direction) (hb : Blanks b)
    (hc : Blanks c) (hnumeral : IsNumeral numeral amount) (hd : Blanks d) :
    readOrder number (a ++ word ++ b ++ ',' :: (c ++ numeral ++ d)) =
      .ok (some ⟨number, direction, amount⟩) := by
  have hamount : Text.integer? numeral = some amount := by
    rw [integer?_of_isTrimmed (isTrimmed_of_isPlain (isPlain_of_isNumeral hnumeral))]
    exact Text.signed?_eq_some_iff.mpr hnumeral
  have hdirection : readDirection word = .ok direction := by
    rw [readDirection_eq_ok_iff,
      Text.trim_of_isTrimmed (isTrimmed_of_isPlain (isPlain_of_isWord hword))]
    exact hword
  have hkept : ¬(word ++ b ++ ',' :: (c ++ numeral) = [] ∨
      (word ++ b ++ ',' :: (c ++ numeral)).head? = some '#') := by
    cases word with
    | nil => exact absurd rfl hword.ne_nil
    | cons first rest =>
      exact not_passed_of_isPlain (isPlain_of_isWord hword first List.mem_cons_self)
  simp only [readOrder, trim_order ha hword hnumeral hd, if_neg hkept,
    pieces_order hword hb hc hnumeral, hamount, hdirection]
  rfl

theorem Says.readOrder_eq (h : Says IsNumeral line what) :
    readOrder number line = .ok (what.map fun trade => ⟨number, trade.1, trade.2⟩) := by
  cases h with
  | blank h =>
    refine readOrder_of_isPassed ?_
    rw [isPassed, List.dropWhile_eq_nil_iff.mpr h]
  | comment ha =>
    refine readOrder_of_isPassed ?_
    rw [isPassed, Text.dropWhile_pad ha (by rintro c ⟨⟩; decide)]
    rfl
  | order ha hword hb hc hnumeral hd => exact readOrder_order ha hword hb hc hnumeral hd

theorem Blanks.append (ha : Blanks a) (hb : Blanks b) : Blanks (a ++ b) :=
  List.forall_mem_append.mpr ⟨ha, hb⟩

theorem says_of_pieces {front back : List Char} (ha : Blanks a)
    (hfront : readDirection (Text.trim isBlank front) = .ok direction)
    (hback : Text.integer? (Text.trim isBlank back) = some amount) (hd : Blanks d) :
    Says IsNumeral (a ++ (front ++ ',' :: back) ++ d) (some (direction, amount)) := by
  rw [readDirection_eq_ok_iff, Text.trim_of_isTrimmed (Text.isTrimmed_trim isBlank front)] at hfront
  rw [integer?_of_isTrimmed (Text.isTrimmed_trim isBlank back), Text.signed?_eq_some_iff] at hback
  obtain ⟨a', b, hword, ha', hb⟩ := Text.exists_pad isBlank front
  obtain ⟨c, d', hnumeral, hc, hd'⟩ := Text.exists_pad isBlank back
  have hwhat := Says.order (Blanks.append ha ha') hfront hb hc hback (Blanks.append hd' hd)
  rw [hword, hnumeral]
  simpa only [List.append_assoc, List.cons_append] using hwhat

theorem exists_of_readOrder (h : readOrder number line = .ok answer) :
    ∃ what, Says IsNumeral line what ∧ answer = what.map fun trade => ⟨number, trade.1, trade.2⟩ := by
  obtain ⟨a, d, hline, ha, hd⟩ := Text.exists_pad isBlank line
  simp only [readOrder] at h
  generalize Text.trim isBlank line = core at hline h
  subst hline
  split at h
  · next hpassed =>
    cases h
    rcases hpassed with rfl | hhash
    · rw [List.append_nil]
      exact ⟨none, .blank (Blanks.append ha hd), rfl⟩
    · obtain ⟨rest, rfl⟩ := List.head?_eq_some_iff.mp hhash
      rw [List.append_assoc]
      exact ⟨none, .comment ha, rfl⟩
  · split at h
    · next word numeral hsplit =>
      obtain ⟨front, others, hpieces, rfl, hothers⟩ := List.map_eq_cons_iff.mp hsplit
      obtain ⟨back, rest, rfl, rfl, hrest⟩ := List.map_eq_cons_iff.mp hothers
      rw [List.map_eq_nil_iff.mp hrest] at hpieces
      obtain ⟨rfl, _, _⟩ := Text.split_eq_pair_iff.mp hpieces
      split at h
      · next amount hamount =>
        obtain ⟨direction, hdirection, rfl⟩ := map_eq_ok_iff.mp h
        exact ⟨some (direction, amount), says_of_pieces ha hdirection hamount hd, rfl⟩
      · cases h
    · cases h

theorem readOrder_eq_ok_iff : readOrder number line = .ok answer ↔
    ∃ what, Says IsNumeral line what ∧ answer = what.map fun trade => ⟨number, trade.1, trade.2⟩ := by
  constructor
  · exact exists_of_readOrder
  · rintro ⟨what, hwhat, rfl⟩
    exact hwhat.readOrder_eq

end Lines

section Scripts

variable {answer : Option Order} {lines before : List (List Char)}
  {said : List (Option (Direction × ℤ))}

def ordersAt (number : ℕ) (said : List (Option (Direction × ℤ))) : List Order :=
  (said.zipIdx number).filterMap fun what => what.1.map fun trade => ⟨what.2, trade.1, trade.2⟩

theorem ordersAt_cons (number : ℕ) (what : Option (Direction × ℤ))
    (said : List (Option (Direction × ℤ))) :
    ordersAt number (what :: said) =
      (what.map fun trade => ⟨number, trade.1, trade.2⟩).toList ++ ordersAt (number + 1) said := by
  rw [ordersAt, List.zipIdx_cons, List.filterMap_cons]
  cases what <;> rfl

theorem readOrders_cons (h : readOrder number line = .ok answer) (rest : List (List Char)) :
    readOrders number (line :: rest) =
      (answer.toList ++ (readOrders (number + 1) rest).1, (readOrders (number + 1) rest).2) := by
  rw [readOrders, h]
  cases answer <;> rfl

theorem readOrders_append (h : List.Forall₂ (Says IsNumeral) before said) (number : ℕ)
    (rest : List (List Char)) :
    readOrders number (before ++ rest) =
      (ordersAt number said ++ (readOrders (number + before.length) rest).1,
        (readOrders (number + before.length) rest).2) := by
  induction h generalizing number with
  | nil => rfl
  | cons hwhat _ ih =>
    rw [List.cons_append, readOrders_cons hwhat.readOrder_eq, ih, ordersAt_cons,
      List.append_assoc, List.length_cons, Nat.add_right_comm, Nat.add_assoc]

theorem exists_read (lines : List (List Char)) :
    (∃ said, List.Forall₂ (Says IsNumeral) lines said) ∨
      ∃ before line after said, lines = before ++ line :: after ∧
        List.Forall₂ (Says IsNumeral) before said ∧ ∀ what, ¬ Says IsNumeral line what := by
  induction lines with
  | nil => exact .inl ⟨[], .nil⟩
  | cons line lines ih =>
    by_cases hline : ∃ what, Says IsNumeral line what
    · obtain ⟨what, hwhat⟩ := hline
      rcases ih with ⟨said, hsaid⟩ | ⟨before, fault, after, said, rfl, hsaid, hfault⟩
      · exact .inl ⟨what :: said, .cons hwhat hsaid⟩
      · exact .inr ⟨line :: before, fault, after, what :: said, rfl, .cons hwhat hsaid, hfault⟩
    · exact .inr ⟨[], line, lines, [], rfl, .nil, not_exists.mp hline⟩

def IsShown (text : List Char) (amount : ℤ) : Prop := text = (toString amount).toList

theorem Says.of_shown {what : Option (Direction × ℤ)} (h : Says IsShown line what) :
    Says IsNumeral line what := by
  cases h with
  | blank h => exact .blank h
  | comment ha => exact .comment ha
  | order ha hword hb hc hshown hd =>
    refine .order ha hword hb hc ?_ hd
    rw [hshown]
    exact Text.isNumeral_toString _

theorem readOrders_said (h : List.Forall₂ (Says IsNumeral) lines said) (number : ℕ) :
    readOrders number lines = (ordersAt number said, none) := by
  have happend := readOrders_append h number []
  rwa [List.append_nil, readOrders, List.append_nil] at happend

theorem readOrders_stops (h : List.Forall₂ (Says IsNumeral) before said)
    (hline : ∀ what, ¬ Says IsNumeral line what) (number : ℕ) (after : List (List Char)) :
    ∃ fault, readOrder (number + before.length) line = .error fault ∧
      readOrders number (before ++ line :: after) = (ordersAt number said, some fault) := by
  cases hread : readOrder (number + before.length) line with
  | ok answer =>
    obtain ⟨what, hwhat, _⟩ := readOrder_eq_ok_iff.mp hread
    exact absurd hwhat (hline what)
  | error fault =>
    refine ⟨fault, rfl, ?_⟩
    rw [readOrders_append h, readOrders, hread, List.append_nil]

/-- Lines that say nothing or an order, each with its amount as integers are shown, are read as just
that. Any others are read up to the first that says neither in any numeral, and the fault is that line's. -/
theorem readOrders_parses (lines : List (List Char)) :
    (∀ said, List.Forall₂ (Says IsShown) lines said →
      readOrders 1 lines = (ordersAt 1 said, none)) ∧
    ((∃ said, List.Forall₂ (Says IsNumeral) lines said ∧
        readOrders 1 lines = (ordersAt 1 said, none)) ∨
      ∃ before line after said fault, lines = before ++ line :: after ∧
        List.Forall₂ (Says IsNumeral) before said ∧ (∀ what, ¬ Says IsNumeral line what) ∧
        readOrder (1 + before.length) line = .error fault ∧
        readOrders 1 lines = (ordersAt 1 said, some fault)) := by
  constructor
  · intro said hsaid
    exact readOrders_said (hsaid.imp fun _ _ => Says.of_shown) 1
  · rcases exists_read lines with ⟨said, hsaid⟩ | ⟨before, line, after, said, rfl, hsaid, hline⟩
    · exact .inl ⟨said, hsaid, readOrders_said hsaid 1⟩
    · obtain ⟨fault, hfault, hread⟩ := readOrders_stops hsaid hline 1 after
      exact .inr ⟨before, line, after, said, fault, rfl, hsaid, hline, hfault, hread⟩

def sampleScript : List (List Char) :=
  [[' '] ++ '#' :: "buys".toList, ['\t'],
    [' '] ++ "A_to_B".toList ++ [' '] ++ ',' :: (['\t'] ++ "-12".toList ++ ['\n'])]

theorem readOrders_parses_sample :
    List.Forall₂ (Says IsShown) sampleScript [none, none, some (.buy, -12)] ∧
      readOrders 1 sampleScript = ([⟨3, .buy, -12⟩], none) := by
  have hspace : Blanks [' '] := List.forall_mem_singleton.mpr rfl
  have htab : Blanks ['\t'] := List.forall_mem_singleton.mpr rfl
  have hend : Blanks ['\n'] := List.forall_mem_singleton.mpr rfl
  have hword : IsWord "A_to_B".toList .buy := isWord_iff.mpr rfl
  have hshown : IsShown "-12".toList (-12) := rfl
  have horder := Says.order hspace hword hspace htab hshown hend
  have hsaid : List.Forall₂ (Says IsShown) sampleScript [none, none, some (.buy, -12)] :=
    .cons (.comment hspace) (.cons (.blank htab) (.cons horder .nil))
  exact ⟨hsaid, (readOrders_parses sampleScript).1 _ hsaid⟩

end Scripts

end Quote

end BondingPool
