import Promptuary.Statistics.Scalar

/-!
The policy of an analysis: what is analysed, how long results are kept, and from where on something
is worth a remark.
-/

namespace Promptuary

/-- The policy of an analysis. -/
structure Policy (α : Type) where
  /-- Whether executions are analysed as they are recorded. -/
  realTime : Bool
  detectAnomalies : Bool
  findTrends : Bool
  /-- For how many days snapshots are kept. -/
  snapshotDays : Int
  /-- For how many days anomalies are kept. -/
  anomalyDays : Int
  /-- From how many deviations on a value is an anomaly. -/
  threshold : α
  /-- How many executions a comparison needs. -/
  leastSamples : Int
  /-- With how many of the latest executions a value is compared. -/
  window : Int
  /-- The mean response time beyond which a remark is made. -/
  slowFrom : α
  /-- The success rate below which a remark is made. -/
  leastSuccess : α
  /-- The rise of the cost in percent beyond which a remark is made. -/
  costRise : α
  /-- The number of anomalies in a day beyond which a remark is made. -/
  burst : Int
  /-- The quality below which a remark is made. -/
  leastQuality : α

end Promptuary
