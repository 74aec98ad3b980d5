namespace TargetHealth

structure Table (κ α : Type) where
  entries : List (κ × α)
deriving Repr, DecidableEq

namespace Table

variable {κ α β : Type}

def empty : Table κ α := ⟨[]⟩

instance : Inhabited (Table κ α) := ⟨empty⟩

instance : EmptyCollection (Table κ α) := ⟨empty⟩

def findIn [DecidableEq κ] (k : κ) : List (κ × α) → Option α
  | [] => none
  | (k', v) :: rest => if k = k' then some v else findIn k rest

def get? [DecidableEq κ] (t : Table κ α) (k : κ) : Option α := findIn k t.entries

def contains [DecidableEq κ] (t : Table κ α) (k : κ) : Bool := (t.get? k).isSome

def insertIn [DecidableEq κ] [LT κ] [DecidableLT κ] (k : κ) (v : α) : List (κ × α) → List (κ × α)
  | [] => [(k, v)]
  | (k', v') :: rest =>
    if k = k' then (k, v) :: rest
    else if k < k' then (k, v) :: (k', v') :: rest
    else (k', v') :: insertIn k v rest

def insert [DecidableEq κ] [LT κ] [DecidableLT κ] (t : Table κ α) (k : κ) (v : α) : Table κ α :=
  ⟨insertIn k v t.entries⟩

def erase [DecidableEq κ] (t : Table κ α) (k : κ) : Table κ α :=
  ⟨t.entries.filter (fun e => e.1 ≠ k)⟩

def modify [DecidableEq κ] (t : Table κ α) (k : κ) (f : α → α) : Table κ α :=
  ⟨t.entries.map (fun e => if e.1 = k then (e.1, f e.2) else e)⟩

def keys (t : Table κ α) : List κ := t.entries.map (·.1)

def values (t : Table κ α) : List α := t.entries.map (·.2)

def size (t : Table κ α) : Nat := t.entries.length

def isEmpty (t : Table κ α) : Bool := t.entries.isEmpty

def map (f : α → β) (t : Table κ α) : Table κ β := ⟨t.entries.map (fun e => (e.1, f e.2))⟩

theorem findIn_insertIn [DecidableEq κ] [LT κ] [DecidableLT κ] (k k' : κ) (v : α) (es : List (κ × α)) :
    findIn k' (insertIn k v es) = if k' = k then some v else findIn k' es := by
  induction es with
  | nil => simp [insertIn, findIn]
  | cons e es ih =>
    obtain ⟨a, b⟩ := e
    by_cases h : k = a
    · subst h
      by_cases hk : k' = k <;> simp [insertIn, findIn, hk]
    · by_cases hlt : k < a
      · simp [insertIn, findIn, h, hlt]
      · by_cases ha : k' = a
        · subst ha
          simp [insertIn, findIn, h, hlt, Ne.symm h]
        · simp [insertIn, findIn, h, hlt, ha, ih]

theorem findIn_filter_ne [DecidableEq κ] (k k' : κ) (es : List (κ × α)) :
    findIn k' (es.filter (fun e => e.1 ≠ k)) = if k' = k then none else findIn k' es := by
  induction es with
  | nil => simp [findIn]
  | cons e es ih =>
    obtain ⟨a, b⟩ := e
    by_cases h : a = k
    · subst h
      by_cases hk : k' = a
      · subst hk
        simpa [findIn] using ih
      · simpa [findIn, hk] using ih
    · by_cases hk : k' = a
      · subst hk
        simp [findIn, h]
      · simp only [ne_eq, decide_not] at ih
        simp [findIn, h, hk, ih]

@[simp] theorem get?_empty [DecidableEq κ] (k : κ) : (empty : Table κ α).get? k = none := rfl

theorem get?_insert [DecidableEq κ] [LT κ] [DecidableLT κ] (t : Table κ α) (k k' : κ) (v : α) :
    (t.insert k v).get? k' = if k' = k then some v else t.get? k' :=
  findIn_insertIn k k' v t.entries

theorem get?_erase [DecidableEq κ] (t : Table κ α) (k k' : κ) :
    (t.erase k).get? k' = if k' = k then none else t.get? k' :=
  findIn_filter_ne k k' t.entries

end Table

end TargetHealth
