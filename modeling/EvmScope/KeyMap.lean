/-!
# Maps keyed by bit vectors

Finite maps from bit vectors of one width, listed in increasing order of their keys. The order
makes the list of entries unique, so two maps that hold the same entries are equal.
-/

namespace EvmScope

set_option autoImplicit false

/-- A finite map from `n`-bit keys. -/
@[ext] structure KeyMap (n : Nat) (α : Type) where
  /-- The keys and their values, in increasing order of the keys. -/
  entries : List (BitVec n × α)
  sorted : entries.Pairwise (·.1 < ·.1)

namespace KeyMap

variable {n : Nat} {α : Type}

def empty : KeyMap n α :=
  ⟨[], .nil⟩

instance : EmptyCollection (KeyMap n α) := ⟨empty⟩

instance : Inhabited (KeyMap n α) := ⟨empty⟩

instance [DecidableEq α] : DecidableEq (KeyMap n α) := fun a b =>
  decidable_of_iff (a.entries = b.entries) ⟨KeyMap.ext, fun h => h ▸ rfl⟩

/-- The value of the first entry with a given key. -/
def findEntry (j : BitVec n) : List (BitVec n × α) → Option α
  | [] => none
  | (k, v) :: es => if j = k then some v else findEntry j es

def get? (m : KeyMap n α) (k : BitVec n) : Option α :=
  findEntry k m.entries

/-- Puts an entry into a sorted list, in the place of one with the same key if there is one. -/
def insertEntry (k : BitVec n) (v : α) : List (BitVec n × α) → List (BitVec n × α)
  | [] => [(k, v)]
  | (k₁, v₁) :: es =>
    if k < k₁ then (k, v) :: (k₁, v₁) :: es
    else if k = k₁ then (k, v) :: es
    else (k₁, v₁) :: insertEntry k v es

/-- Setting an entry brings in no entry but that one. -/
theorem mem_insertEntry {k : BitVec n} {v : α} {es : List (BitVec n × α)} {e : BitVec n × α}
    (h : e ∈ insertEntry k v es) : e = (k, v) ∨ e ∈ es := by
  induction es with
  | nil => simpa [insertEntry] using h
  | cons e₁ es ih =>
    obtain ⟨k₁, v₁⟩ := e₁
    simp only [insertEntry] at h
    split at h
    · simpa using h
    · split at h
      · rcases List.mem_cons.1 h with h | h
        · exact .inl h
        · exact .inr (List.mem_cons_of_mem _ h)
      · rcases List.mem_cons.1 h with h | h
        · exact .inr (h ▸ List.mem_cons_self)
        · exact (ih h).imp_right (List.mem_cons_of_mem _)

/-- Setting an entry keeps the keys in increasing order, which is what a map promises. -/
theorem pairwise_insertEntry {es : List (BitVec n × α)} (h : es.Pairwise (·.1 < ·.1))
    (k : BitVec n) (v : α) : (insertEntry k v es).Pairwise (·.1 < ·.1) := by
  induction es with
  | nil => simp [insertEntry]
  | cons e₁ es ih =>
    obtain ⟨k₁, v₁⟩ := e₁
    obtain ⟨hhead, htail⟩ := List.pairwise_cons.1 h
    simp only [insertEntry]
    split
    · next hlt =>
      refine List.pairwise_cons.2 ⟨fun e he => ?_, h⟩
      rcases List.mem_cons.1 he with rfl | he
      · exact hlt
      · exact BitVec.lt_trans hlt (hhead e he)
    · next hnlt =>
      split
      · next heq =>
        subst heq
        exact List.pairwise_cons.2 ⟨hhead, htail⟩
      · next hne =>
        refine List.pairwise_cons.2 ⟨fun e he => ?_, ih htail⟩
        rcases mem_insertEntry he with rfl | he
        · exact BitVec.lt_of_le_ne (BitVec.not_lt.1 hnlt) (Ne.symm hne)
        · exact hhead e he

def insert (m : KeyMap n α) (k : BitVec n) (v : α) : KeyMap n α :=
  ⟨insertEntry k v m.entries, pairwise_insertEntry m.sorted k v⟩

/-- The map with the given entries, of which a later one replaces an earlier one of the same key. -/
def ofList (es : List (BitVec n × α)) : KeyMap n α :=
  es.foldl (fun m e => m.insert e.1 e.2) ∅

/-- An entry that was set is found under its own key, and every other key gives what it gave before. -/
theorem findEntry_insertEntry (j k : BitVec n) (v : α) (es : List (BitVec n × α)) :
    findEntry j (insertEntry k v es) = if j = k then some v else findEntry j es := by
  induction es with
  | nil => simp [insertEntry, findEntry]
  | cons e es ih =>
    simp only [insertEntry]
    split
    · simp [findEntry]
    · split
      · next heq => by_cases hj : j = k <;> simp_all [findEntry]
      · next hne => by_cases hj : j = e.1 <;> simp_all [findEntry, Ne.symm hne]

@[simp] theorem get?_empty (k : BitVec n) : (∅ : KeyMap n α).get? k = none := rfl

@[simp] theorem get?_insert (m : KeyMap n α) (k j : BitVec n) (v : α) :
    (m.insert k v).get? j = if j = k then some v else m.get? j :=
  findEntry_insertEntry j k v m.entries

end KeyMap

end EvmScope
