import MonaRobot.Perception.LidarMerger

/-!
# The merged cloud

What the lidar merger publishes when the clouds that are projected have one layout: their points,
one cloud after another (`merged_points`). `Merges` is the invariant of the loop: nothing is lost
when an empty cloud is replaced, and the sizes are added without overflow as long as the bytes fit.
-/

namespace MonaRobot

/-- How the bytes of a point are to be read. -/
structure PointLayout where
  fields : List PointField
  isBigendian : Bool
  pointStep : UInt32
  deriving DecidableEq

namespace PointCloud2

def layout (cloud : PointCloud2) : PointLayout := ⟨cloud.fields, cloud.isBigendian, cloud.pointStep⟩

/-- One row of points that fill the buffer. -/
structure WellFormed (cloud : PointCloud2) : Prop where
  height : cloud.height = 1
  size : cloud.data.length = cloud.rowStep.toNat
  rowStep : cloud.rowStep.toNat = cloud.width.toNat * cloud.pointStep.toNat

variable {cloud c d : PointCloud2}

theorem points_of_height (h : cloud.height = 1) : cloud.points =
    Records.records cloud.pointStep.toNat cloud.width.toNat cloud.data := by
  simp [points, h]

theorem points_of_no_rows (h : cloud.height = 0) : cloud.points = [] := by simp [points, h]

theorem WellFormed.length (h : cloud.WellFormed) :
    cloud.data.length = cloud.width.toNat * cloud.pointStep.toNat := h.size.trans h.rowStep

/-- A well formed cloud without data has no points. -/
theorem WellFormed.points_eq_nil (h : cloud.WellFormed) (hp : 0 < cloud.pointStep)
    (hdata : cloud.data = []) : cloud.points = [] := by
  have hwidth : cloud.width.toNat = 0 := by
    have hlen := h.length
    rw [hdata, List.length_nil, eq_comm, Nat.mul_eq_zero] at hlen
    exact hlen.resolve_right (Nat.pos_iff_ne_zero.1 (UInt32.lt_iff_toNat_lt.1 hp))
  rw [points_of_height h.height, hwidth, Records.records_zero]

end PointCloud2

namespace LidarMergerNode

open PointCloud2

variable {c d cloud : PointCloud2} {clouds : List PointCloud2} {layout : PointLayout}

/-- The bytes of the clouds. -/
def totalSize (clouds : List PointCloud2) : ℕ := (clouds.map fun c => c.data.length).sum

/-! ## One layout -/

/-- The sizes of two clouds of one layout are added without overflow. -/
theorem wellFormed_concatenate (hc : c.WellFormed) (hd : d.WellFormed) (hp : 0 < c.pointStep)
    (hstep : d.pointStep = c.pointStep) (hsize : c.data.length + d.data.length < 2 ^ 32) :
    (concatenatePointclouds c d).WellFormed ∧
      (concatenatePointclouds c d).width.toNat = c.width.toNat + d.width.toNat := by
  rw [hc.length, hd.length, hstep, ← Nat.add_mul] at hsize
  have hpos : 0 < c.pointStep.toNat := UInt32.lt_iff_toNat_lt.1 hp
  have hwidth : (c.width + d.width).toNat = c.width.toNat + d.width.toNat := by
    rw [UInt32.toNat_add]
    exact Nat.mod_eq_of_lt (lt_of_le_of_lt (Nat.le_mul_of_pos_right _ hpos) hsize)
  have hrow : ((c.width + d.width) * c.pointStep).toNat =
      (c.width.toNat + d.width.toNat) * c.pointStep.toNat := by
    rw [UInt32.toNat_mul, hwidth]
    exact Nat.mod_eq_of_lt hsize
  refine ⟨⟨hc.height, ?_, ?_⟩, hwidth⟩
  · show (c.data ++ d.data).length = ((c.width + d.width) * c.pointStep).toNat
    rw [hrow, List.length_append, hc.length, hd.length, hstep, Nat.add_mul]
  · show ((c.width + d.width) * c.pointStep).toNat = (c.width + d.width).toNat * c.pointStep.toNat
    rw [hrow, hwidth]

/-- The points of two clouds of one layout, one after the other. -/
theorem points_concatenate (hc : c.WellFormed) (hd : d.WellFormed) (hp : 0 < c.pointStep)
    (hstep : d.pointStep = c.pointStep) (hsize : c.data.length + d.data.length < 2 ^ 32) :
    (concatenatePointclouds c d).points = c.points ++ d.points := by
  obtain ⟨hwf, hwidth⟩ := wellFormed_concatenate hc hd hp hstep hsize
  rw [points_of_height hwf.height, hwidth, points_of_height hc.height, points_of_height hd.height,
    hstep]
  exact Records.records_append hc.length

/-- The cloud after the loop over some clouds of one layout: the initial one if there are none, else
well formed and of their layout, with the bytes and the points of all. -/
structure Merges (layout : PointLayout) (clouds : List PointCloud2) (c : PointCloud2) : Prop where
  initial : clouds = [] → c = {}
  wellFormed : clouds ≠ [] → c.WellFormed ∧ c.layout = layout
  data : c.data = clouds.flatMap PointCloud2.data
  points : c.points = clouds.flatMap PointCloud2.points

theorem totalSize_append (clouds : List PointCloud2) (d : PointCloud2) :
    totalSize (clouds ++ [d]) = (clouds.flatMap PointCloud2.data).length + d.data.length := by
  simp [totalSize, List.length_flatMap]

theorem Merges.join (h : Merges layout clouds c) (hp : 0 < layout.pointStep) (hd : d.WellFormed)
    (hlayout : d.layout = layout) (hsize : totalSize (clouds ++ [d]) < 2 ^ 32) :
    Merges layout (clouds ++ [d]) (join c d) := by
  obtain ⟨hinitial, hwf, hdata, hpoints⟩ := h
  by_cases hempty : c.data = []
  · -- the cloud without data is replaced; it has no points that could be lost
    have hnone : c.points = [] := by
      rcases eq_or_ne clouds [] with hnil | hne
      · rw [hinitial hnil]
        exact points_of_no_rows rfl
      · obtain ⟨hc, hl⟩ := hwf hne
        rw [← hl] at hp
        exact hc.points_eq_nil hp hempty
    rw [LidarMergerNode.join, if_pos hempty]
    refine ⟨by simp, fun _ => ⟨hd, hlayout⟩, ?_, ?_⟩
    · rw [List.flatMap_append, ← hdata, hempty, List.flatMap_singleton, List.nil_append]
    · rw [List.flatMap_append, ← hpoints, hnone, List.flatMap_singleton, List.nil_append]
  · have hne : clouds ≠ [] := fun hnil => hempty (by rw [hinitial hnil])
    obtain ⟨hc, hl⟩ := hwf hne
    have hstep : d.pointStep = c.pointStep :=
      congrArg PointLayout.pointStep (hlayout.trans hl.symm)
    have hpos : 0 < c.pointStep := by
      rw [← hl] at hp
      exact hp
    rw [totalSize_append, ← hdata] at hsize
    rw [LidarMergerNode.join, if_neg hempty]
    refine ⟨by simp, fun _ => ⟨(wellFormed_concatenate hc hd hpos hstep hsize).1, hl⟩, ?_, ?_⟩
    · rw [List.flatMap_append, ← hdata, List.flatMap_singleton]
      rfl
    · rw [List.flatMap_append, ← hpoints, List.flatMap_singleton,
        points_concatenate hc hd hpos hstep hsize]

/-- The loop over clouds of one layout merges them. -/
theorem merges_foldl (hp : 0 < layout.pointStep)
    (hclouds : ∀ d ∈ clouds, d.WellFormed ∧ d.layout = layout)
    (hsize : totalSize clouds < 2 ^ 32) : Merges layout clouds (clouds.foldl LidarMergerNode.join {}) := by
  induction clouds using List.reverseRecOn with
  | nil => exact ⟨fun _ => rfl, fun h => absurd rfl h, rfl, rfl⟩
  | append_singleton clouds d ih =>
    have hle : totalSize clouds ≤ totalSize (clouds ++ [d]) := by simp [totalSize]
    obtain ⟨hd, hlayout⟩ := hclouds d (by simp)
    rw [List.foldl_append]
    exact (ih (fun c hc => hclouds c (List.mem_append_left _ hc)) (hle.trans_lt hsize)).join hp hd
      hlayout hsize

variable {Scan : Type} {s : LidarMergerNode} {projector : Projector Scan} {now : Time}
  {front back left right : Scan}

/-- **The merge is concatenation.** Projections that do not throw give well formed clouds of one
layout with less than 2^32 bytes in all: then the points that are published are those of these
clouds, in the order front, back, left, right. The cloud is well formed and of the same layout if
some projection does not throw; if all do it is a default constructed message, but for the header.
-/
theorem merged_points (hp : 0 < layout.pointStep)
    (hproject : ∀ scan ∈ [front, back, left, right], ∀ c, projector s.targetFrame scan = .ok c →
      c.WellFormed ∧ c.layout = layout)
    (hsize : totalSize (projected (projector s.targetFrame) [front, back, left, right]) < 2 ^ 32)
    (hpub : cloud ∈ s.fusedCallback projector now front back left right) :
    cloud.points = (projected (projector s.targetFrame) [front, back, left, right]).flatMap points ∧
    (projected (projector s.targetFrame) [front, back, left, right] ≠ [] →
      cloud.WellFormed ∧ cloud.layout = layout) ∧
    (projected (projector s.targetFrame) [front, back, left, right] = [] →
      cloud = { header := ⟨now, s.targetFrame⟩ }) := by
  have hclouds : ∀ d ∈ projected (projector s.targetFrame) [front, back, left, right],
      d.WellFormed ∧ d.layout = layout := fun d hd => by
    obtain ⟨scan, hscan, hd⟩ := mem_projected.1 hd
    exact hproject scan hscan d hd
  obtain ⟨hinitial, hwf, -, hpoints⟩ := merges_foldl hp hclouds hsize
  rw [mem_fusedCallback hpub]
  refine ⟨hpoints, fun hne => ?_, fun hnil => ?_⟩
  · obtain ⟨⟨hheight, hsize, hrow⟩, hl⟩ := hwf hne
    exact ⟨⟨hheight, hsize, hrow⟩, hl⟩
  · rw [hinitial hnil]

/-- A node that is active, with its publisher. -/
def activeMerger : LidarMergerNode where
  currentState := .active
  hasPower := true
  targetFrame := "base_link"
  publisher := some true

/-- A cloud of some points at the origin, with `x`, `y`, `z` and, if the scan has intensities,
those. -/
def originCloud (intensities : Bool) (width : ℕ) : PointCloud2 where
  header := { frameId := "base_link" }
  height := 1
  width := UInt32.ofNat width
  fields := [⟨"x", 0, 7, 1⟩, ⟨"y", 4, 7, 1⟩, ⟨"z", 8, 7, 1⟩] ++
    if intensities then [⟨"intensity", 12, 7, 1⟩] else []
  pointStep := if intensities then 16 else 12
  rowStep := UInt32.ofNat (width * if intensities then 16 else 12)
  data := List.replicate (width * if intensities then 16 else 12) 0
  isDense := true

instance (cloud : PointCloud2) : Decidable cloud.WellFormed :=
  decidable_of_iff (cloud.height = 1 ∧ cloud.data.length = cloud.rowStep.toNat ∧
      cloud.rowStep.toNat = cloud.width.toNat * cloud.pointStep.toNat)
    ⟨fun ⟨h₁, h₂, h₃⟩ => ⟨h₁, h₂, h₃⟩, fun ⟨h₁, h₂, h₃⟩ => ⟨h₁, h₂, h₃⟩⟩

/-- Scans given by whether they have intensities and the number of their points; without a scan the
projection throws. -/
def scanProjector : Projector (Option (Bool × ℕ)) := fun _ scan =>
  match scan with
  | some (intensities, width) => .ok (originCloud intensities width)
  | none => .error "lookupTransform"

theorem scanProjector_ok {frame : String} {scan : Option (Bool × ℕ)}
    (h : scanProjector frame scan = .ok c) : ∃ x ∈ scan, originCloud x.1 x.2 = c := by
  cases scan with
  | none => cases h
  | some x => exact ⟨x, rfl, Except.ok.inj h⟩

/-- An active merger publishes, also if projections throw. -/
theorem exists_published (front back left right : Option (Bool × ℕ)) :
    ∃ cloud, cloud ∈ activeMerger.fusedCallback scanProjector 0 front back left right :=
  ⟨_, List.mem_singleton_self _⟩

theorem merged_points_three :
    ∃ cloud ∈ activeMerger.fusedCallback scanProjector 0 (some (false, 2)) none (some (false, 0))
      (some (false, 3)), cloud.points = List.replicate 5 (List.replicate 12 0) := by
  obtain ⟨cloud, hpub⟩ := exists_published (some (false, 2)) none (some (false, 0)) (some (false, 3))
  refine ⟨cloud, hpub, ?_⟩
  have hwf : ∀ scan ∈ [some (false, 2), none, some (false, 0), some (false, 3)], ∀ x ∈ scan,
      (originCloud x.1 x.2).WellFormed ∧
        (originCloud x.1 x.2).layout = (originCloud false 0).layout := by decide
  have hproject : ∀ scan ∈ [some (false, 2), none, some (false, 0), some (false, 3)], ∀ c,
      scanProjector "base_link" scan = .ok c →
        c.WellFormed ∧ c.layout = (originCloud false 0).layout := by
    intro scan hscan c hc
    obtain ⟨x, hx, rfl⟩ := scanProjector_ok hc
    exact hwf scan hscan x hx
  rw [(merged_points (by decide) hproject (by decide) hpub).1]
  decide

/-- All four projections throw: a cloud without a row is published. -/
theorem merged_of_none :
    (∀ c, scanProjector activeMerger.targetFrame none ≠ .ok c) ∧
    ∃ cloud ∈ activeMerger.fusedCallback scanProjector 0 none none none none,
      ¬ cloud.WellFormed := by
  refine ⟨fun c h => ?_, { header := ⟨0, "base_link"⟩ }, by decide, by decide⟩
  cases h

end LidarMergerNode

end MonaRobot
