import Mathlib.Data.List.Forall2

/-!
# Records one after another

Items that hold records, one behind the other. A `Reader` reads the record in front, if it is
there as a whole, and leaves what is behind it; what follows a record has no say in how it
is read. `readAll` reads records while there are any.

1. `readAll_append`: reading goes on where it stopped when more items come;
2. `readAll_writes`: records that are written one behind the other are read back;
3. `readAll_sound`: what was read, and what is left, make up the items, and no record is left.
-/

namespace Records

variable {τ α : Type}

/-- Reads one record off the front. -/
structure Reader (τ α : Type) where
  next : List τ → Option (α × List τ)
  shorter : ∀ {data record rest}, next data = some (record, rest) → rest.length < data.length
  onwards : ∀ {data record rest}, next data = some (record, rest) →
    ∀ more, next (data ++ more) = some (record, rest ++ more)

namespace Reader

variable (r : Reader τ α)

/-- The records in front, and what is left. -/
def readAll (data : List τ) : List α × List τ :=
  match _read : r.next data with
  | none => ([], data)
  | some (record, rest) =>
    let later := readAll rest
    (record :: later.1, later.2)
termination_by data.length
decreasing_by exact r.shorter _read

variable {r}

theorem readAll_of_none {data : List τ} (read : r.next data = none) :
    r.readAll data = ([], data) := by
  rw [readAll]
  split
  · rfl
  · next again =>
    rw [read] at again
    cases again

theorem readAll_of_some {data rest : List τ} {record : α}
    (read : r.next data = some (record, rest)) :
    r.readAll data = (record :: (r.readAll rest).1, (r.readAll rest).2) := by
  rw [readAll]
  split
  · next again =>
    rw [read] at again
    cases again
  · next again =>
    rw [read] at again
    cases again
    rfl

/-- The cases of a reader, with the records behind the first one by induction. -/
theorem induct {P : List τ → Prop} (stops : ∀ data, r.next data = none → P data)
    (reads : ∀ data record rest, r.next data = some (record, rest) → P rest → P data)
    (data : List τ) : P data := by
  cases read : r.next data with
  | none => exact stops data read
  | some pair => exact reads data pair.1 pair.2 read (induct stops reads pair.2)
termination_by data.length
decreasing_by exact r.shorter read

/-- Nothing that is left can be read. -/
theorem next_left (data : List τ) : r.next (r.readAll data).2 = none := by
  induction data using r.induct with
  | stops data read =>
    rw [readAll_of_none read]
    exact read
  | reads data record rest read ih =>
    rw [readAll_of_some read]
    exact ih

/-- What holds of every record that can be read holds of all that are. -/
theorem forall_mem_readAll {P : α → Prop}
    (each : ∀ data record rest, r.next data = some (record, rest) → P record) (data : List τ) :
    ∀ record ∈ (r.readAll data).1, P record := by
  induction data using r.induct with
  | stops data read =>
    rw [readAll_of_none read]
    exact fun _ member => nomatch member
  | reads data record rest read ih =>
    rw [readAll_of_some read]
    exact List.forall_mem_cons.mpr ⟨each data record rest read, ih⟩

/-- When more items come, reading goes on with them behind what was left. -/
theorem readAll_append (data more : List τ) :
    r.readAll (data ++ more) =
      ((r.readAll data).1 ++ (r.readAll ((r.readAll data).2 ++ more)).1,
        (r.readAll ((r.readAll data).2 ++ more)).2) := by
  induction data using r.induct with
  | stops data read =>
    rw [readAll_of_none read]
    rfl
  | reads data record rest read ih =>
    rw [readAll_of_some read, readAll_of_some (r.onwards read more), ih]
    rfl

/-- Records that are written one behind the other are read back, whatever follows them. -/
theorem readAll_writes {write : α → List τ} {records : List α}
    (reads : ∀ record ∈ records, ∀ rest, r.next (write record ++ rest) = some (record, rest))
    (rest : List τ) :
    r.readAll (records.flatMap write ++ rest) =
      (records ++ (r.readAll rest).1, (r.readAll rest).2) := by
  induction records with
  | nil => rfl
  | cons record records ih =>
    obtain ⟨first, later⟩ := List.forall_mem_cons.mp reads
    rw [List.flatMap_cons, List.append_assoc, readAll_of_some (first _), ih later]
    rfl

/-- The items are those of the records that were read, one behind the other, and then those
that are left. -/
theorem readAll_sound {Written : α → List τ → Prop}
    (sound : ∀ data record rest, r.next data = some (record, rest) →
      ∃ front, Written record front ∧ data = front ++ rest) (data : List τ) :
    ∃ fronts, List.Forall₂ Written (r.readAll data).1 fronts ∧
      data = fronts.flatten ++ (r.readAll data).2 := by
  induction data using r.induct with
  | stops data read =>
    rw [readAll_of_none read]
    exact ⟨[], .nil, rfl⟩
  | reads data record rest read ih =>
    obtain ⟨front, written, split⟩ := sound data record rest read
    obtain ⟨fronts, all, parts⟩ := ih
    rw [readAll_of_some read]
    refine ⟨front :: fronts, .cons written all, ?_⟩
    rw [List.flatten_cons, List.append_assoc, ← parts]
    exact split

end Reader

end Records
