import MonaRobot.Perception.MergedCloud
import Mathlib.Algebra.BigOperators.Ring.List
import Mathlib.Algebra.Order.BigOperators.Group.List
import Mathlib.Data.List.TakeWhile

/-!
# Clouds of different layouts

A cloud has an intensity field, and longer points for it, only if its scan has intensities. The
merge does not look at that: the row step it publishes is computed from the point step of the first
cloud with data, the bytes are those of all clouds. The two fit exactly if that point step accounts
for the bytes of all clouds from there on (`consistent_iff`); with the two layouts that there are,
exactly if all clouds with data are of one (`stepsAgree_iff`).
-/

namespace MonaRobot

/-- The sizes fit, with any number of rows. -/
structure PointCloud2.Consistent (cloud : PointCloud2) : Prop where
  size : cloud.data.length = cloud.rowStep.toNat * cloud.height.toNat
  rowStep : cloud.rowStep.toNat = cloud.width.toNat * cloud.pointStep.toNat

namespace LidarMergerNode

open PointCloud2

variable {c d cloud : PointCloud2} {clouds : List PointCloud2}

/-- The points of the clouds. -/
def totalWidth (clouds : List PointCloud2) : ℕ := (clouds.map fun c => c.width.toNat).sum

/-- The clouds from the first one with data on. -/
def withData (clouds : List PointCloud2) : List PointCloud2 :=
  clouds.dropWhile fun c => c.data.isEmpty

/-- The bytes from the first cloud with data on are its point step for each point, counted with 32
bits. -/
def StepsAgree (clouds : List PointCloud2) : Prop :=
  ∀ c ∈ (withData clouds).head?,
    totalSize (withData clouds) = totalWidth (withData clouds) % 2 ^ 32 * c.pointStep.toNat

instance (clouds : List PointCloud2) : Decidable (StepsAgree clouds) :=
  inferInstanceAs (Decidable (∀ c ∈ (withData clouds).head?, _))

theorem stepsAgree_of_cons {cs : List PointCloud2} (hw : withData clouds = c :: cs) :
    StepsAgree clouds ↔
      totalSize (c :: cs) = totalWidth (c :: cs) % 2 ^ 32 * c.pointStep.toNat := by
  simp [StepsAgree, hw]

/-! ## The loop -/

/-- From a cloud with data on everything is appended to it. -/
theorem foldl_join_of_data (clouds : List PointCloud2) {c : PointCloud2} (hdata : c.data ≠ [])
    (hrow : c.rowStep = c.width * c.pointStep) :
    (clouds.foldl join c).height = c.height ∧ (clouds.foldl join c).pointStep = c.pointStep ∧
    (clouds.foldl join c).rowStep = (clouds.foldl join c).width * c.pointStep ∧
    (clouds.foldl join c).data.length = totalSize (c :: clouds) ∧
    (clouds.foldl join c).width.toNat = totalWidth (c :: clouds) % 2 ^ 32 := by
  induction clouds generalizing c with
  | nil =>
    refine ⟨rfl, rfl, hrow, by simp [totalSize], ?_⟩
    simp [totalWidth]
  | cons d clouds ih =>
    have hjoin : join c d = concatenatePointclouds c d := if_neg hdata
    obtain ⟨hheight, hstep, hrowStep, hsize, hwidth⟩ :=
      ih (c := concatenatePointclouds c d) (by simp [concatenatePointclouds, hdata]) rfl
    rw [List.foldl_cons, hjoin]
    refine ⟨hheight, hstep, hrowStep, ?_, ?_⟩
    · rw [hsize]
      simp [totalSize, concatenatePointclouds, Nat.add_assoc]
    · rw [hwidth]
      simp [totalWidth, concatenatePointclouds, Nat.add_assoc]

/-- Clouds without data are replaced: the loop starts at the first one with data, and if there is
none ends with the last cloud. -/
theorem foldl_join_of_empty (clouds : List PointCloud2) {c : PointCloud2} (hdata : c.data = []) :
    (∀ d ds, withData clouds = d :: ds → d.data ≠ [] ∧ clouds.foldl join c = ds.foldl join d) ∧
    (withData clouds = [] →
      (clouds.foldl join c).data = [] ∧ clouds.foldl join c ∈ c :: clouds) := by
  induction clouds generalizing c with
  | nil => exact ⟨fun d ds h => (by cases h), fun _ => ⟨hdata, by simp⟩⟩
  | cons e clouds ih =>
    have hjoin : join c e = e := if_pos hdata
    rw [List.foldl_cons, hjoin]
    by_cases he : e.data = []
    · have hdrop : withData (e :: clouds) = withData clouds :=
        List.dropWhile_cons_of_pos (by simp [he])
      obtain ⟨hsome, hnone⟩ := ih he
      rw [hdrop]
      exact ⟨hsome, fun hnil => ⟨(hnone hnil).1, List.mem_cons_of_mem _ (hnone hnil).2⟩⟩
    · have hdrop : withData (e :: clouds) = e :: clouds :=
        List.dropWhile_cons_of_neg (by simp [he])
      rw [hdrop]
      constructor
      · intro d ds h
        obtain ⟨rfl, rfl⟩ := List.cons.inj h
        exact ⟨he, rfl⟩
      · intro h
        cases h

/-! ## The condition -/

/-- The loop over well formed clouds of any layouts ends with sizes that fit exactly if the steps
agree. -/
theorem consistent_foldl (hwf : ∀ c ∈ clouds, c.WellFormed) (hsize : totalSize clouds < 2 ^ 32) :
    (clouds.foldl join {}).Consistent ↔ StepsAgree clouds := by
  obtain ⟨hsome, hnone⟩ := foldl_join_of_empty clouds (c := {}) rfl
  rcases hw : withData clouds with _ | ⟨c, cs⟩
  · obtain ⟨hdata, hmem⟩ := hnone hw
    refine iff_of_true ?_ (by simp [StepsAgree, hw])
    rcases List.mem_cons.1 hmem with heq | hmem
    · rw [heq]
      exact ⟨rfl, rfl⟩
    · obtain ⟨hheight, hlen, hrow⟩ := hwf _ hmem
      exact ⟨by rw [hlen, hheight]; simp, hrow⟩
  · obtain ⟨hdata, heq⟩ := hsome c cs hw
    have hsuffix : (c :: cs).Sublist clouds := hw ▸ List.dropWhile_sublist _
    obtain ⟨hheight, hlen, hrow⟩ := hwf c (hsuffix.subset (by simp))
    have hfits : totalSize (c :: cs) < 2 ^ 32 :=
      (hsuffix.map _).sum_le_sum (fun _ _ => Nat.zero_le _) |>.trans_lt hsize
    have hrow' : c.rowStep = c.width * c.pointStep := by
      rw [← UInt32.toNat_inj, UInt32.toNat_mul, ← hrow, Nat.mod_eq_of_lt c.rowStep.toNat_lt]
    obtain ⟨hheight', hstep', hrowStep', hsize', hwidth'⟩ :=
      foldl_join_of_data cs hdata hrow'
    have hrowNat : (cs.foldl join c).rowStep.toNat =
        totalWidth (c :: cs) % 2 ^ 32 * c.pointStep.toNat % 2 ^ 32 := by
      rw [hrowStep', UInt32.toNat_mul, hwidth']
    have hone : (cs.foldl join c).height.toNat = 1 := by rw [hheight', hheight]; rfl
    rw [heq, stepsAgree_of_cons hw]
    constructor
    · rintro ⟨hbytes, hstep⟩
      rw [hone, Nat.mul_one, hsize'] at hbytes
      rw [hbytes, hstep, hwidth', hstep']
    · intro htotal
      have hfit : (cs.foldl join c).rowStep.toNat =
          totalWidth (c :: cs) % 2 ^ 32 * c.pointStep.toNat := by
        rw [hrowNat, Nat.mod_eq_of_lt (htotal ▸ hfits)]
      constructor
      · rw [hsize', hone, Nat.mul_one, hfit, htotal]
      · rw [hfit, hwidth', hstep']

/-! ## Two layouts -/

theorem mem_withData (hc : c ∈ clouds) (hdata : c.data ≠ []) : c ∈ withData clouds := by
  rw [← List.takeWhile_append_dropWhile (p := fun c : PointCloud2 => c.data.isEmpty) (l := clouds),
    List.mem_append] at hc
  refine hc.resolve_left fun htake => hdata ?_
  simpa using List.mem_takeWhile_imp htake

/-- Terms below others with the same sum are the same. -/
theorem eq_of_sum_eq {f g : PointCloud2 → ℕ} (hle : ∀ c ∈ clouds, f c ≤ g c)
    (hsum : (clouds.map f).sum = (clouds.map g).sum) : ∀ c ∈ clouds, f c = g c := by
  induction clouds with
  | nil => simp
  | cons d clouds ih =>
    rw [List.forall_mem_cons] at hle ⊢
    obtain ⟨hd, hrest⟩ := hle
    have hsums : (clouds.map f).sum ≤ (clouds.map g).sum := List.sum_le_sum hrest
    rw [List.map_cons, List.sum_cons, List.map_cons, List.sum_cons] at hsum
    exact ⟨by omega, ih hrest (by omega)⟩

/-- A step accounts for the bytes of a cloud exactly if it is the one of the cloud, or there are
none. -/
theorem bytes_eq_iff {step : UInt32} (h : d.WellFormed) (hp : 0 < d.pointStep) :
    d.data.length = d.width.toNat * step.toNat ↔ (d.data ≠ [] → d.pointStep = step) := by
  have hpos : d.pointStep.toNat ≠ 0 := Nat.pos_iff_ne_zero.1 (UInt32.lt_iff_toNat_lt.1 hp)
  have hempty : d.data = [] ↔ d.width.toNat = 0 := by
    rw [← List.length_eq_zero_iff, h.length, Nat.mul_eq_zero, or_iff_left hpos]
  rw [h.length, mul_eq_mul_left_iff, UInt32.toNat_inj, ← hempty, or_iff_not_imp_right]

/-- Of two steps one is the smaller, so with it in place of their own the bytes of all clouds change
in one direction: if their sum is the same, so are they. -/
theorem bytes_eq_of_sum {p q step : UInt32}
    (hlen : ∀ d ∈ clouds, d.data.length = d.width.toNat * d.pointStep.toNat)
    (hstep : step = p ∨ step = q) (htwo : ∀ d ∈ clouds, d.pointStep = p ∨ d.pointStep = q)
    (hsum : (clouds.map fun d => d.data.length).sum =
      (clouds.map fun d => d.width.toNat * step.toNat).sum) :
    ∀ d ∈ clouds, d.data.length = d.width.toNat * step.toNat := by
  have hside : (∀ d ∈ clouds, step.toNat ≤ d.pointStep.toNat) ∨
      ∀ d ∈ clouds, d.pointStep.toNat ≤ step.toNat := by
    rcases le_total p.toNat q.toNat with hpq | hpq <;> rcases hstep with rfl | rfl <;> grind
  rcases hside with hle | hle
  · refine fun d hd => (eq_of_sum_eq (fun d hd => ?_) hsum.symm d hd).symm
    rw [hlen d hd]
    exact Nat.mul_le_mul_left _ (hle d hd)
  · refine eq_of_sum_eq (fun d hd => ?_) hsum
    rw [hlen d hd]
    exact Nat.mul_le_mul_left _ (hle d hd)

/-- With points of at most two lengths the steps agree exactly if all clouds with data have points
of one length. -/
theorem stepsAgree_iff {p q : UInt32} (hwf : ∀ c ∈ clouds, c.WellFormed)
    (hsize : totalSize clouds < 2 ^ 32) (hpos : ∀ c ∈ clouds, 0 < c.pointStep)
    (htwo : ∀ c ∈ clouds, c.pointStep = p ∨ c.pointStep = q) :
    StepsAgree clouds ↔ ∀ c ∈ clouds, ∀ d ∈ clouds, c.data ≠ [] → d.data ≠ [] →
      c.pointStep = d.pointStep := by
  rcases hw : withData clouds with _ | ⟨c, cs⟩
  · refine iff_of_true (by simp [StepsAgree, hw]) fun c hc d _ hdata _ => ?_
    have hmem := mem_withData hc hdata
    rw [hw] at hmem
    cases hmem
  have hdata : c.data ≠ [] := by
    have hhead := List.head?_dropWhile_not (fun c : PointCloud2 => c.data.isEmpty) clouds
    rw [← withData, hw] at hhead
    simpa using hhead
  have hsuffix : (c :: cs).Sublist clouds := hw ▸ List.dropWhile_sublist _
  have hc := hsuffix.subset (List.mem_cons_self ..)
  -- there are no more points than bytes, so they are counted without overflow
  have hwidth : totalWidth (c :: cs) % 2 ^ 32 = totalWidth (c :: cs) := by
    refine Nat.mod_eq_of_lt (lt_of_le_of_lt ?_ hsize)
    refine (List.sum_le_sum fun d hd => ?_).trans
      ((hsuffix.map _).sum_le_sum fun _ _ => Nat.zero_le _)
    rw [(hwf d (hsuffix.subset hd)).length]
    exact Nat.le_mul_of_pos_right _ (UInt32.lt_iff_toNat_lt.1 (hpos d (hsuffix.subset hd)))
  have hagree : StepsAgree clouds ↔ ((c :: cs).map fun d => d.data.length).sum =
      ((c :: cs).map fun d => d.width.toNat * c.pointStep.toNat).sum := by
    rw [List.sum_map_mul_right, ← totalWidth, ← totalSize, stepsAgree_of_cons hw, hwidth]
  have hbytes : ∀ d ∈ c :: cs, d.data.length = d.width.toNat * c.pointStep.toNat ↔
      (d.data ≠ [] → d.pointStep = c.pointStep) := fun d hd =>
    bytes_eq_iff (hwf d (hsuffix.subset hd)) (hpos d (hsuffix.subset hd))
  rw [hagree]
  constructor
  · intro hsum
    have hsame := bytes_eq_of_sum (fun d hd => (hwf d (hsuffix.subset hd)).length) (htwo c hc)
      (fun d hd => htwo d (hsuffix.subset hd)) hsum
    intro d hd e he hdd hed
    have hd' := hw ▸ mem_withData hd hdd
    have he' := hw ▸ mem_withData he hed
    rw [(hbytes d hd').1 (hsame d hd') hdd, (hbytes e he').1 (hsame e he') hed]
  · intro hsteps
    refine congrArg List.sum (List.map_congr_left fun d hd => (hbytes d hd).2 fun hdd => ?_)
    exact hsteps d (hsuffix.subset hd) c hc hdd hdata

/-! ## The published cloud -/

variable {Scan : Type} {s : LidarMergerNode} {projector : Projector Scan} {now : Time}
  {front back left right : Scan}

/-- **When the merged cloud is well formed.** For any scans whose projections throw or give well
formed clouds, of any layouts, with less than 2^32 bytes in all: the sizes of the cloud that is
published fit exactly if the steps of the projected clouds agree. -/
theorem consistent_iff
    (hproject : ∀ scan ∈ [front, back, left, right], ∀ c, projector s.targetFrame scan = .ok c →
      c.WellFormed)
    (hsize : totalSize (projected (projector s.targetFrame) [front, back, left, right]) < 2 ^ 32)
    (hpub : cloud ∈ s.fusedCallback projector now front back left right) :
    cloud.Consistent ↔
      StepsAgree (projected (projector s.targetFrame) [front, back, left, right]) := by
  have hwf : ∀ c ∈ projected (projector s.targetFrame) [front, back, left, right],
      c.WellFormed := fun c hc => by
    obtain ⟨scan, hscan, hc⟩ := mem_projected.1 hc
    exact hproject scan hscan c hc
  rw [← consistent_foldl hwf hsize, mem_fusedCallback hpub]
  exact ⟨fun ⟨h₁, h₂⟩ => ⟨h₁, h₂⟩, fun ⟨h₁, h₂⟩ => ⟨h₁, h₂⟩⟩

theorem consistent_iff_same :
    ∃ cloud ∈ activeMerger.fusedCallback scanProjector 0 (some (false, 0)) (some (true, 2)) none
      (some (true, 3)), cloud.Consistent := by
  obtain ⟨cloud, hpub⟩ := exists_published (some (false, 0)) (some (true, 2)) none (some (true, 3))
  refine ⟨cloud, hpub, ?_⟩
  have hwf : ∀ scan ∈ [some (false, 0), some (true, 2), none, some (true, 3)], ∀ x ∈ scan,
      (originCloud x.1 x.2).WellFormed := by decide
  have hproject : ∀ scan ∈ [some (false, 0), some (true, 2), none, some (true, 3)], ∀ c,
      scanProjector "base_link" scan = .ok c → c.WellFormed := by
    intro scan hscan c hc
    obtain ⟨x, hx, rfl⟩ := scanProjector_ok hc
    exact hwf scan hscan x hx
  exact (consistent_iff hproject (by decide) hpub).2 (by decide)

/-- The scan on the left has no intensities, the others have: a row of 64 bytes for 60. -/
theorem merged_inconsistent :
    (∀ scan ∈ [some (true, 1), some (false, 1)], ∀ x ∈ scan,
      scanProjector activeMerger.targetFrame scan = .ok (originCloud x.1 x.2) ∧
        (originCloud x.1 x.2).WellFormed) ∧
    ∃ cloud ∈ activeMerger.fusedCallback scanProjector 0 (some (true, 1)) (some (true, 1))
      (some (false, 1)) (some (true, 1)), ¬ cloud.Consistent := by
  refine ⟨by decide, _, List.mem_singleton_self _, fun h => ?_⟩
  exact absurd h.size (by decide)

end LidarMergerNode

end MonaRobot
