import MonaRobot.Lifecycle
import MonaRobot.Msgs
import MonaRobot.Foundations.Records

/-!
# The lidar merger

`LidarMergerNode`: four synchronized scans are projected into the target frame, one after another,
and the clouds are joined into one that is published. The projection is the part of
`laser_geometry`; it is a parameter, which returns a cloud or throws.

A cloud is a buffer of bytes with its layout. `concatenatePointclouds` appends the bytes and adds up
the widths, and takes the layout of the first cloud, whatever the other's is. The cloud that the
loop starts with is replaced by the first one that is projected, and so is every cloud without data.
-/

namespace MonaRobot

/-- `std_msgs/Header`. -/
structure Header where
  stamp : Time := 0
  frameId : String := ""
  deriving DecidableEq

/-- `sensor_msgs/PointField`. -/
structure PointField where
  name : String
  offset : UInt32
  datatype : UInt8
  count : UInt32
  deriving DecidableEq

/-- `sensor_msgs/PointCloud2`; the defaults are those of a default constructed message. -/
structure PointCloud2 where
  header : Header := {}
  height : UInt32 := 0
  width : UInt32 := 0
  fields : List PointField := []
  isBigendian : Bool := false
  pointStep : UInt32 := 0
  rowStep : UInt32 := 0
  data : List UInt8 := []
  isDense : Bool := false
  deriving DecidableEq

namespace PointCloud2

/-- The bytes of the points, row by row. -/
def points (cloud : PointCloud2) : List (List UInt8) :=
  (List.range cloud.height.toNat).flatMap fun row =>
    Records.records cloud.pointStep.toNat cloud.width.toNat
      (cloud.data.drop (row * cloud.rowStep.toNat))

end PointCloud2

/-- The node of the lidar merger; its state is that of the lifecycle. -/
structure LidarMergerNode where
  currentState : PrimaryState
  hasPower : Bool
  targetFrame : String
  publisher : LifecyclePublisher

/-- `transformLaserScanToPointCloud`, into a frame: the cloud of a scan, or what it throws. -/
abbrev Projector (Scan : Type) := String → Scan → Except String PointCloud2

namespace LidarMergerNode

/-- `concatenate_pointclouds`. -/
def concatenatePointclouds (base add : PointCloud2) : PointCloud2 :=
  let width := base.width + add.width
  { base with
    data := base.data ++ add.data
    width
    rowStep := width * base.pointStep
    isDense := base.isDense && add.isDense }

/-- The clouds of one pass that does not throw. -/
def join (combinedCloud cloudOut : PointCloud2) : PointCloud2 :=
  if combinedCloud.data = [] then cloudOut else concatenatePointclouds combinedCloud cloudOut

variable {Scan : Type} (project : Scan → Except String PointCloud2)

/-- One pass of the loop of `fused_callback`; what the projection throws is caught. -/
def mergeScan (combinedCloud : PointCloud2) (scan : Scan) : PointCloud2 :=
  match project scan with
  | .ok cloudOut => join combinedCloud cloudOut
  | .error _ => combinedCloud

/-- The clouds of the scans whose projection succeeds, in order. -/
def projected (scans : List Scan) : List PointCloud2 := scans.filterMap fun s => (project s).toOption

variable {project} in
theorem mem_projected {scans : List Scan} {c : PointCloud2} :
    c ∈ projected project scans ↔ ∃ scan ∈ scans, project scan = .ok c := by
  rw [projected, List.mem_filterMap]
  refine exists_congr fun scan => and_congr_right fun _ => ?_
  cases project scan <;> simp [Except.toOption]

/-- The loop joins the clouds of the projections that succeed. -/
theorem foldl_mergeScan (scans : List Scan) (c : PointCloud2) :
    scans.foldl (mergeScan project) c = (projected project scans).foldl join c := by
  induction scans generalizing c with
  | nil => rfl
  | cons scan scans ih =>
    rw [List.foldl_cons, ih, mergeScan, projected, projected]
    cases h : project scan with
    | ok cloudOut => simp [h, Except.toOption]
    | error e => simp [h, Except.toOption]

/-- `fused_callback` at time `now`: the clouds that are published. -/
def fusedCallback (s : LidarMergerNode) (projector : Projector Scan) (now : Time)
    (front back left right : Scan) : List PointCloud2 :=
  if s.currentState ≠ .active then []
  else if s.hasPower = false then []
  else
    let combinedCloud := [front, back, left, right].foldl (mergeScan (projector s.targetFrame)) {}
    if s.publisher.isActivated then [{ combinedCloud with header := ⟨now, s.targetFrame⟩ }] else []

/-- What is published is the join of the projected clouds, with a header of its own. -/
theorem mem_fusedCallback {s : LidarMergerNode} {projector : Projector Scan} {now : Time}
    {front back left right : Scan} {cloud : PointCloud2}
    (h : cloud ∈ s.fusedCallback projector now front back left right) :
    cloud = { (projected (projector s.targetFrame) [front, back, left, right]).foldl join {} with
      header := ⟨now, s.targetFrame⟩ } := by
  unfold fusedCallback at h
  rw [← foldl_mergeScan]
  split_ifs at h with hstate hpower hpub
  · cases h
  · cases h
  · exact List.mem_singleton.1 h
  · cases h

end LidarMergerNode

end MonaRobot
