import EvmScope.Proofs.JsonTrace
import EvmScope.Proofs.Quantities

/-!
# Words as traces show them

A trace in text takes the zeros away from the front of the 64 digits of a word, and a trace in JSON writes
the digits of its number. Both come to the one text that has `0x`, small letters and no digit to spare, so
the two traces show the same texts for the words of a stack: in text the top comes first, in JSON the
bottom.
-/

namespace EvmScope

set_option autoImplicit false

open Text

namespace Text

/-- Digits of a number in base sixteen, with small letters and none of them wasted; zero has one. -/
structure ShortestHex (n : Nat) (digits : List Char) : Prop where
  small : ∀ c ∈ digits, c ∈ "0123456789abcdef".toList
  noneWasted : n ≠ 0 → digits.head? ≠ some '0'
  zero : n = 0 → digits = ['0']
  value : hexNumber? digits = some n

theorem exists_digitChar {c : Char} (h : c ∈ "0123456789abcdef".toList) :
    ∃ d < 16, d.digitChar = c := by
  have hdigits : "0123456789abcdef".toList = (List.range 16).map Nat.digitChar := by decide
  rw [hdigits] at h
  obtain ⟨d, hd, rfl⟩ := List.mem_map.1 h
  exact ⟨d, List.mem_range.1 hd, rfl⟩

/-- The last digit of a row is worth itself, and all the digits in front of it sixteen times as much. -/
theorem exists_hexNumber?_of_snoc {digits : List Char} {n d : Nat} (hd : d < 16)
    (h : hexNumber? (digits ++ [d.digitChar]) = some n) :
    ∃ m, hexNumber? digits = some m ∧ n = 16 * m + d := by
  rw [hexNumber?_append] at h
  obtain ⟨m, hm, hlast⟩ := Option.bind_eq_some_iff.1 h
  refine ⟨m, hm, ?_⟩
  simp only [List.foldlM_cons, List.foldlM_nil, hexValue?_digitChar hd] at hlast
  exact (Option.some.inj hlast).symm

/-- Digits with no zero in front are the digits of their number. -/
theorem eq_toDigits_of_hexNumber? {digits : List Char} {n : Nat} (hne : digits ≠ [])
    (hsmall : ∀ c ∈ digits, c ∈ "0123456789abcdef".toList) (hhead : digits.head? ≠ some '0')
    (hvalue : hexNumber? digits = some n) : digits = Nat.toDigits 16 n := by
  -- from the right, as the digits of a number are made
  induction digits using List.reverseRecOn generalizing n with
  | nil => exact absurd rfl hne
  | append_singleton digits c ih =>
    obtain ⟨d, hd, rfl⟩ := exists_digitChar (hsmall c (by simp))
    obtain ⟨m, hm, rfl⟩ := exists_hexNumber?_of_snoc hd hvalue
    by_cases hempty : digits = []
    · subst hempty
      obtain rfl : 0 = m := Option.some.inj hm
      simp [Nat.toDigits_of_lt_base hd]
    · rw [List.head?_append_of_ne_nil _ hempty] at hhead
      have hfront := ih hempty (fun c hc => hsmall c (by simp [hc])) hhead hm
      have hpos : 0 < m := by
        apply Nat.pos_of_ne_zero
        rintro rfl
        simp [hfront] at hhead
      rw [← Nat.toDigits_append_toDigits (by decide) hpos hd, ← hfront, Nat.toDigits_of_lt_base hd]

theorem head?_dropWhile_zero (s : List Char) : (s.dropWhile (· == '0')).head? ≠ some '0' := by
  induction s with
  | nil => simp
  | cons c s ih =>
    by_cases hc : c = '0'
    · rwa [List.dropWhile_cons_of_pos (by simp [hc])]
    · rw [List.dropWhile_cons_of_neg (by simp [hc]), List.head?_cons]
      exact fun h => hc (Option.some.inj h)

/-- There is only one shortest way to write a number. -/
theorem ShortestHex.eq_toDigits {n : Nat} {digits : List Char} (h : ShortestHex n digits) :
    digits = Nat.toDigits 16 n := by
  by_cases hn : n = 0
  · rw [h.zero hn, hn]
    rfl
  · refine eq_toDigits_of_hexNumber? ?_ h.small (h.noneWasted hn) h.value
    rintro rfl
    exact hn (Option.some.inj h.value).symm

end Text

namespace JsonValue

/-- A string that needs no escapes stands between quotes as it is. -/
theorem quote_of_plain {s : List Char} (h : ∀ c ∈ s, escape c = [c]) :
    quote s = '"' :: s ++ ['"'] := by
  have hflat : s.flatMap escape = s := by
    induction s with
    | nil => rfl
    | cons c s ih =>
      rw [List.forall_mem_cons] at h
      rw [List.flatMap_cons, h.1, ih h.2, List.singleton_append]
  rw [quote, hflat]

end JsonValue

namespace Trace

open JsonValue

/-- Without the zeros in front, the digits of a word are as short as can be. -/
theorem shortestHex_stackWord (w : Word) :
    ∃ digits, stackWord w = '0' :: 'x' :: digits ∧ ShortestHex w.toNat digits := by
  have hvalue : hexNumber? ((fullWord w).dropWhile (· == '0')) = some w.toNat := by
    rw [hexNumber?_dropWhile_zero, fullWord, Hex.hexNumber?_encode, Word.toNat_toBytes]
  have hsmall : ∀ c ∈ (fullWord w).dropWhile (· == '0'), c ∈ "0123456789abcdef".toList :=
    fun c hc => Hex.mem_encode ((List.dropWhile_sublist _).subset hc)
  have hhead := head?_dropWhile_zero (fullWord w)
  rw [stackWord]
  generalize (fullWord w).dropWhile (· == '0') = digits at hvalue hsmall hhead
  by_cases hempty : digits = []
  · -- only zeros: one of them stays
    subst hempty
    have hzero : 0 = w.toNat := Option.some.inj hvalue
    have hdigit : ∀ c ∈ ['0'], c ∈ "0123456789abcdef".toList :=
      List.forall_mem_singleton.2 (by decide)
    refine ⟨['0'], rfl, hdigit, fun hne => absurd hzero.symm hne, fun _ => rfl, ?_⟩
    rw [← hzero]
    rfl
  · refine ⟨digits, by simp [hempty], hsmall, fun _ => hhead, fun hzero => ?_, hvalue⟩
    rw [eq_toDigits_of_hexNumber? hempty hsmall hhead hvalue, hzero]
    rfl

/-- Both traces show a word by the same text. -/
theorem stackWord_eq_quantity (w : Word) : stackWord w = w.quantity := by
  obtain ⟨digits, hword, hshortest⟩ := shortestHex_stackWord w
  rw [hword, hshortest.eq_toDigits, Word.quantity]

/-- A word is shown by the shortest digits of its number, and by nothing else. -/
theorem eq_stackWord_iff {w : Word} {s : List Char} :
    s = stackWord w ↔ ∃ digits, s = '0' :: 'x' :: digits ∧ ShortestHex w.toNat digits := by
  constructor
  · rintro rfl
    exact shortestHex_stackWord w
  · rintro ⟨digits, rfl, hshortest⟩
    rw [stackWord_eq_quantity, hshortest.eq_toDigits, Word.quantity]

/-- In a text of JSON a word stands between quotes. -/
theorem text_wordValue (w : Word) : (wordValue w).text = '"' :: stackWord w ++ ['"'] := by
  rw [wordValue, ← stackWord_eq_quantity, JsonValue.text]
  apply quote_of_plain
  have hplain : ("x0123456789abcdef".toList.all fun c => escape c == [c]) = true := by decide
  have hmem : ∀ c ∈ stackWord w, c ∈ "x0123456789abcdef".toList := by
    obtain ⟨digits, hword, hshortest⟩ := shortestHex_stackWord w
    rw [hword]
    simp only [List.mem_cons]
    rintro c (rfl | rfl | hc)
    · decide
    · decide
    · exact List.mem_cons_of_mem _ (hshortest.small c hc)
  intro c hc
  simpa using List.all_eq_true.1 hplain c (hmem c hc)

/-- Lines for texts one below another, each with its number in front. -/
def numbered (texts : List (List Char)) : List Char :=
  texts.zipIdx.flatMap fun entry => decimalPadded 8 entry.2 ++ [' ', ' '] ++ entry.1 ++ ['\n']

/-- Texts between quotes in brackets, with commas between them. -/
def bracketed (texts : List (List Char)) : List Char :=
  '[' :: [','].intercalate (texts.map fun s => '"' :: s ++ ['"']) ++ [']']

/-- In a trace in text, the words of a stack stand on numbered lines. -/
theorem stackLines_eq_flatMap (n : Nat) (ws : List Word) :
    stackLines n ws = ((ws.map stackWord).zipIdx n).flatMap fun entry =>
      decimalPadded 8 entry.2 ++ [' ', ' '] ++ entry.1 ++ ['\n'] := by
  induction ws generalizing n with
  | nil => rfl
  | cons w ws ih => simp [stackLines, ih]

/-- In a trace in JSON, the words of a stack stand between quotes in an array. -/
theorem text_words (ws : List Word) :
    (JsonValue.array (ws.map wordValue)).text = bracketed (ws.map stackWord) := by
  rw [JsonValue.text, itemsText_eq, List.map_map, bracketed, List.map_map]
  have htexts : JsonValue.text ∘ wordValue = (fun s => '"' :: s ++ ['"']) ∘ stackWord := funext text_wordValue
  rw [htexts]

/-- The stack of a step is shown by these texts, its top first. -/
structure StackShown (log : StepLog) (texts : List (List Char)) : Prop where
  /-- In text they stand behind the first line of the block, under a title if there are any. -/
  inText : ∃ rest, block log = headLine log ++ titled "Stack:" (numbered texts) ++ rest
  /-- In JSON they are the items of a member, the last one first. -/
  inJson : (JsonValue.read? (object log)).bind (·.member? "stack") =
    some (.array (texts.reverse.map .string))
  written : (JsonValue.array (texts.reverse.map .string)).text = bracketed texts.reverse

/-- The object of a step has its stack, the top last. -/
theorem member?_stack (log : StepLog) :
    (value log).member? "stack" = some (.array (log.stack.reverse.map wordValue)) := by
  obtain ⟨pc, op, gas, gasCost, depth, error, stack, memory, storage⟩ := log
  cases error <;> rfl

/-- Both renderings show the same texts for a stack. -/
theorem stackShown_stackWords (log : StepLog) : StackShown log (log.stack.map stackWord) := by
  have hstrings : (log.stack.map stackWord).reverse.map JsonValue.string =
      log.stack.reverse.map wordValue := by
    have hstring : JsonValue.string ∘ stackWord = wordValue :=
      funext fun w => congrArg JsonValue.string (stackWord_eq_quantity w)
    rw [← List.map_reverse, List.map_map, hstring]
  refine ⟨?_, ?_, ?_⟩
  · rw [block, stackLines_eq_flatMap, numbered]
    simp only [List.append_assoc]
    exact ⟨_, rfl⟩
  · rw [read?_object, Option.bind_some, member?_stack, hstrings]
  · rw [hstrings, text_words, List.map_reverse]

/-- **Traces in text and in JSON show a word by the same text**: `0x` and the digits of the word, with
small letters and no zero in front. It can be read back. The stack of a step is shown by the same texts in
both, in text from the top down and in JSON from the bottom up. -/
theorem words_shown_alike :
    (∀ w s, s = stackWord w ↔ ∃ digits, s = '0' :: 'x' :: digits ∧ ShortestHex w.toNat digits) ∧
      (∀ w, Word.ofQuantity? (stackWord w) = some w ∧
        (wordValue w).text = '"' :: stackWord w ++ ['"']) ∧
      ∀ log : StepLog, StackShown log (log.stack.map stackWord) :=
  ⟨fun _ _ => eq_stackWord_iff, fun w => ⟨ofQuantity?_stackWord w, text_wordValue w⟩,
    stackShown_stackWords⟩

example : ([0, 0x10, 0x0a00] : List Word).map stackWord =
    ["0x0", "0x10", "0xa00"].map String.toList := by
  decide

end Trace

end EvmScope
