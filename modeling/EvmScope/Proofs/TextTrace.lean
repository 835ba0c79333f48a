import Mathlib.Data.List.Forall2
import EvmScope.Proofs.Dump
import EvmScope.Proofs.Mnemonic
import EvmScope.Text.Utf8.Lemmas

/-!
# What a trace in text tells

A trace in text and the output behind it are lines. An empty line ends the block of each step and
begins the trailer, and no other line is empty. In a block the titles of the sections are told from
their entries by the first character. So the steps can be read off the text, except for their depth
and for which of the undefined opcodes a step has run. An error is part of the first line, which it
would break if it held a newline.
-/

namespace EvmScope

set_option autoImplicit false

open Text

/-- Steps that a trace in text does not tell apart. -/
structure StepLog.LooksLike (a b : StepLog) : Prop where
  opName : a.opName = b.opName
  pc : a.pc = b.pc
  gas : a.gas = b.gas
  gasCost : a.gasCost = b.gasCost
  error : a.error = b.error
  stack : a.stack = b.stack
  memory : a.memory = b.memory
  storage : a.storage = b.storage

namespace Trace

/-! ## The lines of a block -/

/-- What is said of an error at the end of the first line. -/
def errorNote (error : String) : List Char :=
  "ERROR: ".toList ++ error.toList

def headRow (log : StepLog) : List Char :=
  padRight 16 ' ' log.opName.toList ++ ['p', 'c'] ++
    '=' :: (decimalPadded 8 log.pc ++
      ' ' :: ("gas=".toList ++ decimal log.gas ++
        ' ' :: ("cost=".toList ++ decimal log.gasCost ++
          (log.error.map errorNote).elim [] (' ' :: ·))))

/-- The line of a word of the stack, with its number. -/
def stackRow (n : Nat) (w : Word) : List Char :=
  decimalPadded 8 n ++ [' ', ' '] ++ stackWord w

/-- The lines of a stack, whose first item has the number `n`. -/
def stackRows (n : Nat) : List Word → List (List Char)
  | [] => []
  | w :: ws => stackRow n w :: stackRows (n + 1) ws

def slotRow (slot : Word × Word) : List Char :=
  fullWord slot.1 ++ [':', ' '] ++ fullWord slot.2

/-- The lines of a section, with its title in front of its entries. -/
def sectionRows (title : String) (entries : List (List Char)) : List (List Char) :=
  if entries = [] then [] else title.toList :: entries

/-- The lines of a block without the empty one at its end. -/
def blockRows (log : StepLog) : List (List Char) :=
  headRow log ::
    (sectionRows "Stack:" (stackRows 0 log.stack) ++
      (sectionRows "Memory:" (Hex.dumpRows 0 log.memory.toList) ++
        sectionRows "Storage:" (log.storage.entries.map slotRow)))

/-- The line that shows the output of a call. -/
def outputRow (output : Bytes) : List Char :=
  "Return = 0x".toList ++ Hex.encode output

/-- The lines of a trace and of the output behind it. -/
def rows (logs : List StepLog) (output : Bytes) : List (List Char) :=
  (logs.flatMap fun log => blockRows log ++ [[]]) ++ [[], outputRow output]

theorem headLine_eq (log : StepLog) : headLine log = headRow log ++ ['\n'] := by
  have hpc : "pc=".toList = ['p', 'c'] ++ ['='] := rfl
  have hgas : " gas=".toList = [' '] ++ "gas=".toList := rfl
  have hcost : " cost=".toList = [' '] ++ "cost=".toList := rfl
  have herror (error : String) :
      " ERROR: ".toList ++ error.toList = [' '] ++ errorNote error := rfl
  rw [headLine, headRow, hpc, hgas, hcost]
  generalize "gas=".toList = gas, "cost=".toList = cost
  cases log.error with
  | none =>
    simp only [Option.map_none, Option.elim_none, List.append_assoc, List.cons_append,
      List.nil_append]
  | some error =>
    simp only [herror, Option.map_some, Option.elim_some, List.append_assoc, List.cons_append,
      List.nil_append]

theorem stackLines_eq (n : Nat) (ws : List Word) :
    stackLines n ws = (stackRows n ws).flatMap (· ++ ['\n']) := by
  induction ws generalizing n with
  | nil => rfl
  | cons w ws ih => simp [stackLines, stackRows, stackRow, ih]

theorem titled_eq (title : String) (entries : List (List Char)) :
    titled title (entries.flatMap (· ++ ['\n'])) =
      (sectionRows title entries).flatMap (· ++ ['\n']) := by
  cases entries <;> simp [titled, sectionRows]

/-- A block is its lines and an empty one, each with an end. -/
theorem block_eq (log : StepLog) :
    block log = (blockRows log ++ [[]]).flatMap (· ++ ['\n']) := by
  have hslots : log.storage.entries.flatMap slotLine =
      (log.storage.entries.map slotRow).flatMap (· ++ ['\n']) := by
    rw [List.flatMap_map]
    rfl
  rw [block, headLine_eq, stackLines_eq, Hex.dump, Hex.dumpFrom_eq, hslots, titled_eq, titled_eq,
    titled_eq]
  simp [blockRows]

theorem trailer_eq (output : Bytes) :
    trailer output = [[], outputRow output].flatMap (· ++ ['\n']) := by
  have hline : outputLine output = outputRow output ++ ['\n'] := rfl
  rw [trailer, hline, List.flatMap_cons, List.flatMap_cons, List.flatMap_nil, List.append_nil,
    List.nil_append, List.singleton_append]

/-- A trace and the output behind it are lines, each with an end. -/
theorem text_append_trailer_eq (logs : List StepLog) (output : Bytes) :
    text logs ++ trailer output = (rows logs output).flatMap (· ++ ['\n']) := by
  rw [rows, List.flatMap_append, ← trailer_eq, text, List.flatMap_assoc]
  exact congrArg (logs.flatMap · ++ trailer output) (funext block_eq)

/-! ## Lines tell what they show -/

theorem blank_not_mem_append_decimal {label : List Char} (hlabel : ' ' ∉ label) (n : Nat) :
    ' ' ∉ label ++ decimal n := fun h =>
  (List.mem_append.1 h).elim hlabel fun h => absurd (isDigit_of_mem_decimal h) (by decide)

/-- The note about an error determines the error. -/
theorem errorNote_injective : Function.Injective errorNote := fun _ _ h =>
  String.toList_injective (List.append_cancel_left h)

/-- The first line tells all it shows. -/
theorem headRow_inj {a b : StepLog} (h : headRow a = headRow b) :
    a.opName = b.opName ∧ a.pc = b.pc ∧ a.gas = b.gas ∧ a.gasCost = b.gasCost ∧
      a.error = b.error := by
  have hblank (log : StepLog) : ' ' ∉ log.opName.toList := fun hmem =>
    absurd (Opcode.isAlphanum_of_mem_name hmem) (by decide)
  have hequals (log : StepLog) : '=' ∉ padRight 16 ' ' log.opName.toList ++ ['p', 'c'] := by
    have hname : '=' ∉ log.opName.toList := fun hmem =>
      absurd (Opcode.isAlphanum_of_mem_name hmem) (by decide)
    simp [padRight, hname]
  have hdigits (n : Nat) : ' ' ∉ decimalPadded 8 n := fun hmem =>
    absurd (isDigit_of_mem_decimalPadded hmem) (by decide)
  have hgas : ' ' ∉ "gas=".toList := by decide
  have hcost : ' ' ∉ "cost=".toList := by decide
  obtain ⟨hname, h⟩ := append_cons_inj (hequals a) (hequals b) h
  obtain ⟨hpc, h⟩ := append_cons_inj (hdigits _) (hdigits _) h
  obtain ⟨hgas, h⟩ := append_cons_inj (blank_not_mem_append_decimal hgas _)
    (blank_not_mem_append_decimal hgas _) h
  obtain ⟨hcost, herror⟩ := append_optional_inj (blank_not_mem_append_decimal hcost _)
    (blank_not_mem_append_decimal hcost _) h
  exact ⟨String.toList_injective
      (padRight_inj (hblank a) (hblank b) (List.append_cancel_right hname)),
    decimalPadded_inj hpc, decimal_injective (List.append_cancel_left hgas),
    decimal_injective (List.append_cancel_left hcost),
    Option.map_injective errorNote_injective herror⟩

/-- The lines of a stack tell its words, in their order. -/
theorem stackRows_injective (n : Nat) : Function.Injective (stackRows n) := by
  intro ws ws' h
  induction ws generalizing n ws' with
  | nil => cases ws' with
    | nil => rfl
    | cons w' ws' => cases h
  | cons w ws ih => cases ws' with
    | nil => cases h
    | cons w' ws' =>
      obtain ⟨hrow, hrest⟩ := List.cons.inj h
      rw [stackWord_injective (List.append_cancel_left hrow), ih _ hrest]

theorem slotRow_injective : Function.Injective slotRow := by
  intro slot slot' h
  have hrow (slot : Word × Word) :
      slotRow slot = fullWord slot.1 ++ ':' :: ' ' :: fullWord slot.2 := by
    simp only [slotRow, List.append_assoc, List.cons_append, List.nil_append]
  have hcolon (w : Word) : ':' ∉ fullWord w := fun hmem => absurd (Hex.mem_encode hmem) (by decide)
  rw [hrow, hrow] at h
  obtain ⟨hkey, hvalue⟩ := append_cons_inj (hcolon _) (hcolon _) h
  exact Prod.ext (fullWord_injective hkey) (fullWord_injective (List.cons.inj hvalue).2)

/-! ## Sections of a block -/

/-- The lines that stand below the titles of sections. -/
inductive Entry : List Char → Prop
  | stack (n : Nat) (w : Word) : Entry (stackRow n w)
  | memory (offset : Nat) (bytes : Bytes) : Entry (Hex.dumpRow offset bytes)
  | storage (slot : Word × Word) : Entry (slotRow slot)

theorem entry_of_mem_stackRows {n : Nat} {ws : List Word} {row : List Char}
    (h : row ∈ stackRows n ws) : Entry row := by
  induction ws generalizing n with
  | nil => cases h
  | cons w ws ih =>
    rcases List.mem_cons.1 h with rfl | h
    · exact .stack n w
    · exact ih h

theorem entry_of_mem_dumpRows {offset : Nat} {bs : Bytes} {row : List Char}
    (h : row ∈ Hex.dumpRows offset bs) : Entry row := by
  obtain ⟨offset, bytes, rfl⟩ := Hex.exists_of_mem_dumpRows h
  exact .memory offset bytes

theorem entry_of_mem_slotRows {slots : List (Word × Word)} {row : List Char}
    (h : row ∈ slots.map slotRow) : Entry row := by
  obtain ⟨slot, -, rfl⟩ := List.mem_map.1 h
  exact .storage slot

/-- Whether a line can be an entry: titles begin with a capital letter, and no line is empty. -/
def isEntry (row : List Char) : Bool :=
  row.head?.any (!·.isUpper)

/-- A line that begins with anything but a capital letter can be an entry. -/
theorem isEntry_append {front : List Char} (rest : List Char) (hne : front ≠ [])
    (h : ∀ c ∈ front, c.isUpper = false) : isEntry (front ++ rest) = true := by
  cases front with
  | nil => exact absurd rfl hne
  | cons c front => simp [isEntry, h c List.mem_cons_self]

/-- An entry begins with a digit or with a small letter. -/
theorem Entry.isEntry {row : List Char} (h : Entry row) : Trace.isEntry row = true := by
  have hsmall {c : Char} (hc : c ∈ "0123456789abcdef".toList) : c.isUpper = false := by
    have hall : "0123456789abcdef".toList.all (!·.isUpper) = true := by decide
    simpa using List.all_eq_true.1 hall c hc
  cases h with
  | stack n w =>
    have hne : decimalPadded 8 n ≠ [] := by simp [decimalPadded, padLeft, decimal]
    rw [stackRow, List.append_assoc]
    refine isEntry_append _ hne fun c hc => decide_eq_false fun hupper => ?_
    have hdigit : c.toNat ≤ 57 := (Char.isDigit_iff_toNat.1 (isDigit_of_mem_decimalPadded hc)).2
    have hcapital : 65 ≤ c.toNat := UInt32.le_iff_toNat_le.1 hupper.1
    omega
  | memory offset bytes =>
    have hne : hexPadded 8 offset ≠ [] := by simp [hexPadded, padLeft]
    simp only [Hex.dumpRow, List.append_assoc]
    exact isEntry_append _ hne fun c hc => hsmall (mem_hexPadded hc)
  | storage slot =>
    have hne : fullWord slot.1 ≠ [] := fun hnil => by
      have hlength := congrArg List.length (Hex.encode_injective hnil : slot.1.toBytes = [])
      simp at hlength
    rw [slotRow, List.append_assoc]
    exact isEntry_append _ hne fun c hc => hsmall (Hex.mem_encode hc)

/-- No entry goes on over the end of its line. -/
theorem Entry.newline_not_mem {row : List Char} (h : Entry row) : '\n' ∉ row := by
  have hword (w : Word) : '\n' ∉ fullWord w := fun hmem =>
    absurd (Hex.mem_encode hmem) (by decide)
  cases h with
  | stack n w =>
    have hnumber : '\n' ∉ decimalPadded 8 n := fun hmem =>
      absurd (isDigit_of_mem_decimalPadded hmem) (by decide)
    have hdigits : '\n' ∉ (fullWord w).dropWhile (· == '0') := fun hmem =>
      hword w ((List.dropWhile_sublist _).subset hmem)
    rw [stackRow, stackWord]
    generalize (fullWord w).dropWhile (· == '0') = digits at hdigits
    cases digits <;> simp_all
  | memory offset bytes => exact Hex.newline_not_mem_dumpRow offset bytes
  | storage slot => simp [slotRow, hword]

/-- No lines, or lines that begin with one of some titles. -/
def OpensWith (titles : List String) (lines : List (List Char)) : Prop :=
  ∀ row ∈ lines.head?, ∃ title ∈ titles, row = title.toList

/-- A section is left out or begins with its title. -/
theorem OpensWith.sectionRows_append {titles : List String} {lines : List (List Char)}
    (h : OpensWith titles lines) (title : String) (entries : List (List Char)) :
    OpensWith (title :: titles) (sectionRows title entries ++ lines) := by
  intro row hrow
  by_cases hne : entries = []
  · rw [sectionRows, if_pos hne, List.nil_append] at hrow
    obtain ⟨t, ht, rfl⟩ := h row hrow
    exact ⟨t, List.mem_cons_of_mem _ ht, rfl⟩
  · rw [sectionRows, if_neg hne, List.cons_append, List.head?_cons] at hrow
    exact ⟨title, List.mem_cons_self, (Option.some.inj hrow).symm⟩

/-- Entries end where lines begin that open with a title. -/
theorem entries_append_inj {titles : List String} {entries entries' lines lines' : List (List Char)}
    (htitles : ∀ t ∈ titles, isEntry t.toList = false)
    (he : ∀ row ∈ entries, Entry row) (he' : ∀ row ∈ entries', Entry row)
    (hl : OpensWith titles lines) (hl' : OpensWith titles lines')
    (h : entries ++ lines = entries' ++ lines') : entries = entries' ∧ lines = lines' := by
  have htake {entries lines : List (List Char)} (he : ∀ row ∈ entries, Entry row)
      (hl : OpensWith titles lines) : (entries ++ lines).takeWhile isEntry = entries := by
    have hlines : lines.takeWhile isEntry = [] := by
      cases lines with
      | nil => rfl
      | cons row lines =>
        obtain ⟨t, ht, rfl⟩ := hl row rfl
        exact List.takeWhile_cons_of_neg (by simp [htitles t ht])
    rw [List.takeWhile_append_of_pos fun row hrow => (he row hrow).isEntry, hlines,
      List.append_nil]
  obtain rfl : entries = entries' := by rw [← htake he hl, h, htake he' hl']
  exact ⟨rfl, List.append_cancel_left h⟩

/-- A section tells its entries, and that it is left out. -/
theorem sectionRows_append_inj {title : String} {titles : List String}
    {entries entries' lines lines' : List (List Char)}
    (htitle : title ∉ titles) (htitles : ∀ t ∈ titles, isEntry t.toList = false)
    (he : ∀ row ∈ entries, Entry row) (he' : ∀ row ∈ entries', Entry row)
    (hl : OpensWith titles lines) (hl' : OpensWith titles lines')
    (h : sectionRows title entries ++ lines = sectionRows title entries' ++ lines') :
    entries = entries' ∧ lines = lines' := by
  have hother {lines entries : List (List Char)} (hl : OpensWith titles lines) :
      lines ≠ title.toList :: entries := by
    rintro rfl
    obtain ⟨t, ht, heq⟩ := hl _ rfl
    exact htitle (String.toList_injective heq ▸ ht)
  by_cases hne : entries = [] <;> by_cases hne' : entries' = []
  · rw [sectionRows, sectionRows, if_pos hne, if_pos hne'] at h
    exact ⟨hne.trans hne'.symm, h⟩
  · rw [sectionRows, sectionRows, if_pos hne, if_neg hne'] at h
    exact absurd h (hother hl)
  · rw [sectionRows, sectionRows, if_neg hne, if_pos hne'] at h
    exact absurd h.symm (hother hl')
  · rw [sectionRows, sectionRows, if_neg hne, if_neg hne'] at h
    exact entries_append_inj htitles he he' hl hl' (List.cons.inj h).2

/-- A block tells its step. -/
theorem looksLike_of_blockRows_eq {a b : StepLog} (h : blockRows a = blockRows b) :
    a.LooksLike b := by
  obtain ⟨hhead, h⟩ := List.cons.inj h
  obtain ⟨hname, hpc, hgas, hcost, herror⟩ := headRow_inj hhead
  have hend : OpensWith [] [] := nofun
  have hstorage (log : StepLog) :
      OpensWith ["Storage:"] (sectionRows "Storage:" (log.storage.entries.map slotRow)) := by
    have hopens := hend.sectionRows_append "Storage:" (log.storage.entries.map slotRow)
    rwa [List.append_nil] at hopens
  have hmemory (log : StepLog) :=
    (hstorage log).sectionRows_append "Memory:" (Hex.dumpRows 0 log.memory.toList)
  obtain ⟨hstack, h⟩ := sectionRows_append_inj (by decide) (by decide)
    (fun _ => entry_of_mem_stackRows) (fun _ => entry_of_mem_stackRows) (hmemory a) (hmemory b) h
  obtain ⟨hbytes, h⟩ := sectionRows_append_inj (by decide) (by decide)
    (fun _ => entry_of_mem_dumpRows) (fun _ => entry_of_mem_dumpRows) (hstorage a) (hstorage b) h
  obtain ⟨hentries, -⟩ := sectionRows_append_inj (by decide) (by decide)
    (fun _ => entry_of_mem_slotRows) (fun _ => entry_of_mem_slotRows) hend hend
    (congrArg (· ++ []) h)
  exact ⟨hname, hpc, hgas, hcost, herror, stackRows_injective 0 hstack,
    Array.toList_inj.1 (Hex.dumpRows_injective 0 hbytes),
    KeyMap.ext (slotRow_injective.list_map hentries)⟩

/-! ## Ends of lines and of blocks -/

theorem mem_sectionRows {title : String} {entries : List (List Char)} {row : List Char}
    (h : row ∈ sectionRows title entries) : row = title.toList ∨ row ∈ entries := by
  rw [sectionRows] at h
  split at h
  · cases h
  · exact List.mem_cons.1 h

/-- The lines of a block are its first line, titles and entries. -/
theorem mem_blockRows {log : StepLog} {row : List Char} (h : row ∈ blockRows log) :
    row = headRow log ∨ (∃ t ∈ ["Stack:", "Memory:", "Storage:"], row = t.toList) ∨ Entry row := by
  rw [blockRows, List.mem_cons, List.mem_append, List.mem_append] at h
  rcases h with rfl | h | h | h
  · exact .inl rfl
  · rcases mem_sectionRows h with rfl | h
    · exact .inr (.inl ⟨_, by decide, rfl⟩)
    · exact .inr (.inr (entry_of_mem_stackRows h))
  · rcases mem_sectionRows h with rfl | h
    · exact .inr (.inl ⟨_, by decide, rfl⟩)
    · exact .inr (.inr (entry_of_mem_dumpRows h))
  · rcases mem_sectionRows h with rfl | h
    · exact .inr (.inl ⟨_, by decide, rfl⟩)
    · exact .inr (.inr (entry_of_mem_slotRows h))

/-- An empty line is no line of a block, so it ends the block. -/
theorem nil_not_mem_blockRows (log : StepLog) : [] ∉ blockRows log := by
  have hhead : headRow log ≠ [] := List.append_ne_nil_of_right_ne_nil _ (List.cons_ne_nil _ _)
  have htitles : ∀ t ∈ ["Stack:", "Memory:", "Storage:"], [] ≠ t.toList := by decide
  intro hmem
  rcases mem_blockRows hmem with h | ⟨t, ht, h⟩ | h
  · exact hhead h.symm
  · exact htitles t ht h
  · cases h.isEntry

theorem newline_not_mem_headRow {log : StepLog} (h : ∀ error ∈ log.error, '\n' ∉ error.toList) :
    '\n' ∉ headRow log := by
  have hname : '\n' ∉ log.opName.toList := fun hmem =>
    absurd (Opcode.isAlphanum_of_mem_name hmem) (by decide)
  have hpc : '\n' ∉ decimalPadded 8 log.pc := fun hmem =>
    absurd (isDigit_of_mem_decimalPadded hmem) (by decide)
  have hdecimal (n : Nat) : '\n' ∉ decimal n := fun hmem =>
    absurd (isDigit_of_mem_decimal hmem) (by decide)
  have hgas : '\n' ∉ "gas=".toList := by decide
  have hcost : '\n' ∉ "cost=".toList := by decide
  have hlabel : '\n' ∉ "ERROR: ".toList := by decide
  have hnote : ∀ note ∈ log.error.map errorNote, '\n' ∉ note := by
    intro note hmem
    obtain ⟨error, herror, rfl⟩ := Option.map_eq_some_iff.1 hmem
    exact fun hc => (List.mem_append.1 hc).elim hlabel (h error herror)
  rw [headRow]
  generalize "gas=".toList = gas, "cost=".toList = cost, log.error.map errorNote = note at *
  cases note with
  | none => simp [padRight, hname, hpc, hdecimal, hgas, hcost]
  | some note => simp [padRight, hname, hpc, hdecimal, hgas, hcost, hnote note rfl]

/-- The lines of a block are lines, as long as the error has no newline in it. -/
theorem newline_not_mem_blockRows {log : StepLog} (h : ∀ error ∈ log.error, '\n' ∉ error.toList) :
    ∀ row ∈ blockRows log, '\n' ∉ row := by
  have htitles : ∀ t ∈ ["Stack:", "Memory:", "Storage:"], '\n' ∉ t.toList := by decide
  intro row hrow
  rcases mem_blockRows hrow with rfl | ⟨t, ht, rfl⟩ | hentry
  · exact newline_not_mem_headRow h
  · exact htitles t ht
  · exact hentry.newline_not_mem

/-- What the lines of a trace need to be told apart: errors without a newline. -/
theorem newline_not_mem_rows {logs : List StepLog} {output : Bytes}
    (h : ∀ log ∈ logs, ∀ error ∈ log.error, '\n' ∉ error.toList) :
    ∀ row ∈ rows logs output, '\n' ∉ row := by
  have houtput : '\n' ∉ outputRow output := fun hmem =>
    (List.mem_append.1 hmem).elim (absurd · (by decide)) fun hmem =>
      absurd (Hex.mem_encode hmem) (by decide)
  intro row hrow
  simp only [rows, List.mem_append, List.mem_flatMap, List.mem_cons, List.not_mem_nil, or_false]
    at hrow
  rcases hrow with ⟨log, hlog, hrow | rfl⟩ | rfl | rfl
  · exact newline_not_mem_blockRows (h log hlog) row hrow
  · exact List.not_mem_nil
  · exact List.not_mem_nil
  · exact houtput

theorem rows_cons (log : StepLog) (logs : List StepLog) (output : Bytes) :
    rows (log :: logs) output = blockRows log ++ [] :: rows logs output := by
  simp only [rows, List.flatMap_cons, List.append_assoc, List.cons_append, List.nil_append]

/-- Blocks of lines tell their steps, and how many there are. -/
theorem rows_inj {logs logs' : List StepLog} {output output' : Bytes}
    (h : rows logs output = rows logs' output') :
    output = output' ∧ List.Forall₂ StepLog.LooksLike logs logs' := by
  have hother {log : StepLog} {lines lines' : List (List Char)} :
      blockRows log ++ lines ≠ [] :: lines' := fun h =>
    nil_not_mem_blockRows log ((List.cons.inj h).1 ▸ List.mem_cons_self)
  induction logs generalizing logs' with
  | nil =>
    cases logs' with
    | nil =>
      have houtput := (List.cons.inj (List.cons.inj h).2).1
      exact ⟨Hex.encode_injective (List.append_cancel_left houtput), .nil⟩
    | cons log' logs' =>
      rw [rows_cons] at h
      exact absurd h.symm hother
  | cons log logs ih =>
    cases logs' with
    | nil =>
      rw [rows_cons] at h
      exact absurd h hother
    | cons log' logs' =>
      rw [rows_cons, rows_cons] at h
      obtain ⟨hblock, hrest⟩ :=
        append_cons_inj (nil_not_mem_blockRows log) (nil_not_mem_blockRows log') h
      obtain ⟨houtput, hlogs⟩ := ih hrest
      exact ⟨houtput, .cons (looksLike_of_blockRows_eq hblock) hlogs⟩

/-- Steps that look alike have one block. -/
theorem block_eq_of_looksLike {a b : StepLog} (h : a.LooksLike b) : block a = block b := by
  rw [block, block, headLine, headLine, h.opName, h.pc, h.gas, h.gasCost, h.error, h.stack,
    h.memory, h.storage]

/-- Steps that look alike have the same text. -/
theorem text_eq_of_looksLike {logs logs' : List StepLog}
    (h : List.Forall₂ StepLog.LooksLike logs logs') : text logs = text logs' := by
  induction h with
  | nil => rfl
  | cons hlog _ ih => rw [text, text, List.flatMap_cons, List.flatMap_cons,
      block_eq_of_looksLike hlog, ← text, ← text, ih]

/-- **A trace in text tells its steps, and the output behind it.** Traces of errors without newlines
have the same bytes exactly if their outputs are equal and their steps look alike one by one. -/
theorem text_determines_steps {logs logs' : List StepLog} {output output' : Bytes}
    (herrors : ∀ log ∈ logs, ∀ error ∈ log.error, '\n' ∉ error.toList)
    (herrors' : ∀ log ∈ logs', ∀ error ∈ log.error, '\n' ∉ error.toList) :
    utf8 (text logs ++ trailer output) = utf8 (text logs' ++ trailer output') ↔
      output = output' ∧ List.Forall₂ StepLog.LooksLike logs logs' := by
  constructor
  · intro h
    have hlines := utf8_injective h
    rw [text_append_trailer_eq, text_append_trailer_eq] at hlines
    exact rows_inj (lines_inj (newline_not_mem_rows herrors) (newline_not_mem_rows herrors') hlines)
  · rintro ⟨rfl, hlogs⟩
    rw [text_eq_of_looksLike hlogs]

/-- Steps of two undefined opcodes look alike, but not if the outputs differ. -/
theorem undefined_opcodes_look_alike :
    let log : StepLog := { op := 0x0c, error := some "OpcodeNotFound" }
    let log' : StepLog := { op := 0x0d, error := some "OpcodeNotFound" }
    (∀ l ∈ [log], ∀ error ∈ l.error, '\n' ∉ error.toList) ∧
      (∀ l ∈ [log'], ∀ error ∈ l.error, '\n' ∉ error.toList) ∧
      utf8 (text [log] ++ trailer [0xca]) = utf8 (text [log'] ++ trailer [0xca]) ∧
      utf8 (text [log] ++ trailer [0xca]) ≠ utf8 (text [log'] ++ trailer [0xfe]) := by
  intro log log'
  have herrors : ∀ l ∈ [log], ∀ error ∈ l.error, '\n' ∉ error.toList := by decide
  have herrors' : ∀ l ∈ [log'], ∀ error ∈ l.error, '\n' ∉ error.toList := by decide
  have hname : log.opName = log'.opName := Opcode.name_eq_name_iff.2 (.inr ⟨rfl, rfl⟩)
  refine ⟨herrors, herrors', ?_, fun h => ?_⟩
  · exact (text_determines_steps herrors herrors').2
      ⟨rfl, .cons ⟨hname, rfl, rfl, rfl, rfl, rfl, rfl, rfl⟩ .nil⟩
  · exact absurd ((text_determines_steps herrors herrors').1 h).1 (by decide)

end Trace

end EvmScope
