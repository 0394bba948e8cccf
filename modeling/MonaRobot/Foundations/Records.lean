import Mathlib.Data.List.Range
import Mathlib.Tactic.Ring

/-!
# A buffer of records

A buffer read as records of one length, one after another. Appending to a buffer that is full of
whole records appends the records (`records_append`).
-/

namespace Records

variable {α : Type*} {p n m k : ℕ} {a b : List α}

/-- The record number `k`, of `p` entries. -/
def record (p : ℕ) (l : List α) (k : ℕ) : List α := (l.drop (k * p)).take p

/-- The first `n` records. -/
def records (p n : ℕ) (l : List α) : List (List α) := (List.range n).map (record p l)

@[simp] theorem records_zero (p : ℕ) (l : List α) : records p 0 l = [] := rfl

/-- What is appended does not change the records before it. -/
theorem record_append_left (h : (k + 1) * p ≤ a.length) : record p (a ++ b) k = record p a k := by
  have hdrop : k * p ≤ a.length := le_trans (Nat.mul_le_mul_right p (Nat.le_succ k)) h
  have htake : p ≤ (a.drop (k * p)).length := by
    rw [List.length_drop]
    have hsucc : (k + 1) * p = k * p + p := Nat.succ_mul k p
    omega
  rw [record, List.drop_append_of_le_length hdrop, List.take_append_of_le_length htake, record]

theorem record_append_right (h : a.length = n * p) : record p (a ++ b) (n + k) = record p b k := by
  have hoff : (n + k) * p = a.length + k * p := by rw [h, Nat.add_mul]
  rw [record, hoff, List.drop_length_add_append, record]

/-- The records of two buffers, the first of them whole. -/
theorem records_append (h : a.length = n * p) :
    records p (n + m) (a ++ b) = records p n a ++ records p m b := by
  rw [records, List.range_add, List.map_append, List.map_map]
  congr 1
  · refine List.map_congr_left fun k hk => record_append_left ?_
    rw [h]
    exact Nat.mul_le_mul_right p (List.mem_range.1 hk)
  · exact List.map_congr_left fun k _ => record_append_right h

end Records
