import TelemetryLab.Lib.PathPattern

/-! The routes of the server: the patterns that `ApiServer::Initialize` registers, in
its order, and those that `route_registry.cpp` requires.

The HTTP library is not part of the repository. How it searches the routes of a
method for one whose pattern is the whole path is a parameter; it lets the Get routes
answer HEAD requests, and looks for a file under the mount point before either.
-/

set_option autoImplicit false
namespace TelemetryLab.Server
open PathPattern

/-! ## The texts of the patterns -/

/-- The ranges of a bracket expression; a hyphen that nothing follows stands for itself. -/
def bracketRanges : List Char → List (Char × Char)
  | low :: '-' :: high :: rest => (low, high) :: bracketRanges rest
  | c :: rest => (c, c) :: bracketRanges rest
  | [] => []

/-- A character that means itself in a pattern. -/
def literal (c : Char) : Bool := inRanges [('a', 'z'), ('A', 'Z'), ('0', '9'), ('_', '_')] c

/-- A segment of a pattern: a word, or a group around a repeated bracket expression. -/
def segmentOf : List Char → Option Segment
  | '(' :: '[' :: rest =>
    if rest.drop (rest.length - 3) = [']', '+', ')'] then
      some (.capture (bracketRanges (rest.take (rest.length - 3))))
    else none
  | text => if text.all literal && !text.isEmpty then some (.word text) else none

/-- The segments of a pattern; none if it is not made of such segments. -/
def compile (pattern : String) : Option (List Segment) :=
  match pattern.toList.splitOn '/' with
  | [] :: segments => segments.mapM segmentOf
  | _ => none

structure RouteSpec (H : Type) where
  method : String
  pattern : String
  handlerName : H
  deriving DecidableEq, Repr

def RouteSpec.compile {H : Type} (spec : RouteSpec H) : Option (Route String H) :=
  (Server.compile spec.pattern).map fun segments => ⟨spec.method, segments, spec.handlerName⟩

def kRequiredRoutes : List (RouteSpec String) := [
  ⟨"POST", "/datasets", "CreateDataset"⟩,
  ⟨"GET", "/datasets", "ListDatasets"⟩,
  ⟨"GET", "/datasets/([a-zA-Z0-9-]+)", "GetDataset"⟩,
  ⟨"GET", "/datasets/([a-zA-Z0-9-]+)/summary", "GetDatasetSummary"⟩,
  ⟨"GET", "/datasets/([a-zA-Z0-9-]+)/topk", "GetDatasetTopK"⟩,
  ⟨"GET", "/datasets/([a-zA-Z0-9-]+)/timeseries", "GetDatasetTimeSeries"⟩,
  ⟨"GET", "/datasets/([a-zA-Z0-9-]+)/histogram", "GetDatasetHistogram"⟩,
  ⟨"GET", "/datasets/([a-zA-Z0-9-]+)/samples", "GetDatasetSamples"⟩,
  ⟨"GET", "/datasets/([a-zA-Z0-9-]+)/records/([0-9]+)", "GetDatasetRecord"⟩,
  ⟨"GET", "/datasets/([a-zA-Z0-9-]+)/metrics/([a-zA-Z0-9_]+)/stats", "GetMetricStats"⟩,
  ⟨"GET", "/datasets/([a-zA-Z0-9-]+)/metrics/summary", "GetMetricsSummary"⟩,
  ⟨"GET", "/datasets/([a-zA-Z0-9-]+)/models", "GetDatasetModels"⟩,
  ⟨"GET", "/models/([a-zA-Z0-9-]+)", "GetModel"⟩,
  ⟨"GET", "/models/([a-zA-Z0-9-]+)/datasets/scored", "GetModelScoredDatasets"⟩,
  ⟨"GET", "/scores", "GetScores"⟩,
  ⟨"POST", "/inference", "RunInference"⟩,
  ⟨"GET", "/inference_runs", "ListInferenceRuns"⟩,
  ⟨"GET", "/inference_runs/([a-zA-Z0-9-]+)", "GetInferenceRun"⟩,
  ⟨"POST", "/jobs/score_dataset", "CreateScoreJob"⟩,
  ⟨"GET", "/jobs", "ListJobs"⟩,
  ⟨"GET", "/jobs/([a-zA-Z0-9-]+)/progress", "GetJobProgress"⟩,
  ⟨"GET", "/jobs/([a-zA-Z0-9-]+)", "GetJob"⟩,
  ⟨"GET", "/models/([a-zA-Z0-9-]+)/eval", "GetModelEval"⟩,
  ⟨"GET", "/models/([a-zA-Z0-9-]+)/error_distribution", "GetModelErrorDist"⟩,
  ⟨"GET", "/healthz", "HealthCheck"⟩,
  ⟨"GET", "/readyz", "ReadyCheck"⟩,
  ⟨"GET", "/metrics", "Metrics"⟩,
  ⟨"GET", "/schema/metrics", "GetMetricsSchema"⟩,
  ⟨"POST", "/train", "StartTrain"⟩,
  ⟨"GET", "/train/([a-zA-Z0-9-]+)", "GetTrainStatus"⟩,
  ⟨"DELETE", "/train/([a-zA-Z0-9-]+)", "CancelTrain"⟩,
  ⟨"GET", "/models", "ListModels"⟩,
  ⟨"GET", "/models/([a-zA-Z0-9-]+)/trials", "GetHpoTrials"⟩,
  ⟨"POST", "/models/([a-zA-Z0-9-]+)/rerun_failed", "RerunFailedTrials"⟩,
  ⟨"DELETE", "/jobs/([a-zA-Z0-9-]+)", "CancelJob"⟩]

/-- The handlers of the server, the methods of `ApiServer` before the functions that stand in
`Initialize` themselves. -/
inductive Handler where
  | handleGenerateData | handleListDatasets | handleGetDataset | handleDatasetSummary | handleDatasetTopK
  | handleDatasetTimeSeries | handleDatasetHistogram | handleGetDatasetSamples | handleGetDatasetRecord
  | handleGetDatasetMetricStats | handleGetDatasetMetricsSummary | handleGetDatasetModels
  | handleGetModelDetail | handleGetModelScoredDatasets | handleGetScores | handleInference
  | handleListInferenceRuns | handleGetInferenceRun | handleScoreDatasetJob | handleListJobs
  | handleGetJobProgress | handleGetJobStatus | handleModelEval | handleModelErrorDistribution
  | handleTrainModel | handleGetTrainStatus | handleListModels
  | cancelJob | getHpoTrials | rerunFailed | healthz | readyz | metrics | schemaMetrics | cancelTrain
  deriving DecidableEq, Repr

/-- What `Initialize` registers. -/
def registeredRoutes : List (RouteSpec Handler) := [
  ⟨"POST", "/datasets", .handleGenerateData⟩,
  ⟨"GET", "/datasets", .handleListDatasets⟩,
  ⟨"GET", "/datasets/([a-zA-Z0-9-]+)", .handleGetDataset⟩,
  ⟨"GET", "/datasets/([a-zA-Z0-9-]+)/summary", .handleDatasetSummary⟩,
  ⟨"GET", "/datasets/([a-zA-Z0-9-]+)/topk", .handleDatasetTopK⟩,
  ⟨"GET", "/datasets/([a-zA-Z0-9-]+)/timeseries", .handleDatasetTimeSeries⟩,
  ⟨"GET", "/datasets/([a-zA-Z0-9-]+)/histogram", .handleDatasetHistogram⟩,
  ⟨"GET", "/datasets/([a-zA-Z0-9-]+)/samples", .handleGetDatasetSamples⟩,
  ⟨"GET", "/datasets/([a-zA-Z0-9-]+)/records/([0-9]+)", .handleGetDatasetRecord⟩,
  ⟨"GET", "/datasets/([a-zA-Z0-9-]+)/metrics/([a-zA-Z0-9_]+)/stats", .handleGetDatasetMetricStats⟩,
  ⟨"GET", "/datasets/([a-zA-Z0-9-]+)/metrics/summary", .handleGetDatasetMetricsSummary⟩,
  ⟨"GET", "/datasets/([a-zA-Z0-9-]+)/models", .handleGetDatasetModels⟩,
  ⟨"GET", "/models/([a-zA-Z0-9-]+)", .handleGetModelDetail⟩,
  ⟨"GET", "/models/([a-zA-Z0-9-]+)/datasets/scored", .handleGetModelScoredDatasets⟩,
  ⟨"GET", "/scores", .handleGetScores⟩,
  ⟨"POST", "/inference", .handleInference⟩,
  ⟨"GET", "/inference_runs", .handleListInferenceRuns⟩,
  ⟨"GET", "/inference_runs/([a-zA-Z0-9-]+)", .handleGetInferenceRun⟩,
  ⟨"POST", "/jobs/score_dataset", .handleScoreDatasetJob⟩,
  ⟨"GET", "/jobs", .handleListJobs⟩,
  ⟨"GET", "/jobs/([a-zA-Z0-9-]+)/progress", .handleGetJobProgress⟩,
  ⟨"GET", "/jobs/([a-zA-Z0-9-]+)", .handleGetJobStatus⟩,
  ⟨"DELETE", "/jobs/([a-zA-Z0-9-]+)", .cancelJob⟩,
  ⟨"GET", "/models/([a-zA-Z0-9-]+)/eval", .handleModelEval⟩,
  ⟨"GET", "/models/([a-zA-Z0-9-]+)/error_distribution", .handleModelErrorDistribution⟩,
  ⟨"GET", "/models/([a-zA-Z0-9-]+)/trials", .getHpoTrials⟩,
  ⟨"POST", "/models/([a-zA-Z0-9-]+)/rerun_failed", .rerunFailed⟩,
  ⟨"GET", "/healthz", .healthz⟩,
  ⟨"GET", "/readyz", .readyz⟩,
  ⟨"GET", "/metrics", .metrics⟩,
  ⟨"GET", "/schema/metrics", .schemaMetrics⟩,
  ⟨"POST", "/train", .handleTrainModel⟩,
  ⟨"GET", "/train/([a-zA-Z0-9-]+)", .handleGetTrainStatus⟩,
  ⟨"DELETE", "/train/([a-zA-Z0-9-]+)", .cancelTrain⟩,
  ⟨"GET", "/models", .handleListModels⟩]

def requiredTable : List (Route String String) := kRequiredRoutes.filterMap RouteSpec.compile

def routeTable : List (Route String Handler) := registeredRoutes.filterMap RouteSpec.compile

/-- What becomes of a request: the preflight answer of the pre-routing handler, a file under
the mount point, a handler with its captures, or none of them. -/
inductive Routed where
  | preflight
  | file
  | handler (name : Handler) (matched : List (List Char))
  | unmatched
  deriving DecidableEq, Repr

/-- The method whose routes are searched. -/
def routesOf (method : String) : String := if method = "HEAD" then "GET" else method

/-- `isFile` is whether the mount point has a file at the path. -/
def routed (library : Dispatcher String '/') (isFile : Bool) (method : String) (path : List Char) : Routed :=
  if method = "OPTIONS" then .preflight
  else if isFile && routesOf method == "GET" then .file
  else
    match library.find routeTable (routesOf method) path with
    | some (name, matched) => .handler name matched
    | none => .unmatched

/-! ## The tables -/

/-- Every registered pattern has its segments, and no path matches two of them. -/
theorem routeTable_checked :
    routeTable.length = registeredRoutes.length ∧
    (∀ route ∈ routeTable, route.pattern ≠ [] ∧ ∀ segment ∈ route.pattern, segment.contained '/' = true) ∧
    routeTable.Pairwise fun first second => first.method = second.method → apart first.pattern second.pattern = true := by
  decide +kernel

theorem routeTable_wellFormed : WellFormed '/' routeTable := routeTable_checked.2.1

theorem routeTable_distinct : Distinct routeTable := routeTable_checked.2.2

/-- The registry requires what is registered. -/
theorem specs_agree : (registeredRoutes.map fun spec => (spec.method, spec.pattern)).Perm
    (kRequiredRoutes.map fun spec => (spec.method, spec.pattern)) := by
  decide +kernel

theorem renamed_compile {H : Type} (specs : List (RouteSpec H)) :
    renamed (fun _ => ()) (specs.filterMap RouteSpec.compile) =
      (specs.map fun spec => (spec.method, spec.pattern)).filterMap fun spec =>
        (compile spec.2).map fun segments => ⟨spec.1, segments, ()⟩ := by
  rw [renamed, List.map_filterMap, List.filterMap_map]
  congr 1
  funext spec
  simp only [RouteSpec.compile, Option.map_map]
  rfl

theorem tables_agree : (renamed (fun _ => ()) routeTable).Perm (renamed (fun _ => ()) requiredTable) := by
  rw [routeTable, requiredTable, renamed_compile, renamed_compile]
  exact specs_agree.filterMap _

/-- A request that is no preflight and asks for no file reaches a handler exactly if its
path is what a pattern of that handler makes of the captures, so captured ids come out as
they went in. No request matches two patterns: neither the order of registration nor the
library's way to search them matters, and the table that the registry requires answers the
same requests with the same captures. -/
theorem routed_iff (library : Dispatcher String '/') (isFile : Bool) (method : String) (path : List Char)
    (noPreflight : method ≠ "OPTIONS") (noFile : isFile = true → routesOf method ≠ "GET") :
    (∀ name matched, routed library isFile method path = .handler name matched ↔
      ∃ route ∈ routeTable, route.method = routesOf method ∧ route.handler = name ∧
        render '/' route.pattern matched = some path) ∧
    (∀ other, routeTable.Perm other →
      library.find other (routesOf method) path = library.find routeTable (routesOf method) path) ∧
    (library.find requiredTable (routesOf method) path).map Prod.snd =
      (library.find routeTable (routesOf method) path).map Prod.snd := by
  have forgotten : Distinct (renamed (fun _ => ()) routeTable) := List.pairwise_map.mpr routeTable_distinct
  have required : Distinct requiredTable := List.pairwise_map.mp (forgotten.perm tables_agree)
  refine ⟨fun name matched => ?_, fun other same => ?_, ?_⟩
  · have noFile : ¬ (isFile && routesOf method == "GET") = true := by
      rw [Bool.and_eq_true, beq_iff_eq]
      exact fun both => noFile both.1 both.2
    rw [← dispatch_iff routeTable_wellFormed routeTable_distinct, ← library.find_eq routeTable_distinct, routed,
      if_neg noPreflight, if_neg noFile]
    split
    next found => simp [found]
    next nothing => simp [nothing]
  · rw [library.find_eq routeTable_distinct, library.find_eq (routeTable_distinct.perm same)]
    exact (dispatch_perm '/' routeTable_distinct same (routesOf method) path).symm
  · have same := dispatch_perm '/' forgotten tables_agree (routesOf method) path
    rw [dispatch_renamed, dispatch_renamed] at same
    have captures := congrArg (Option.map Prod.snd) same
    rw [library.find_eq routeTable_distinct, library.find_eq required]
    simpa only [Option.map_map, Function.comp_def] using captures.symm

/-- A record of a dataset, also if only its head is asked for. -/
theorem routed_iff_record :
    routed (firstMatch String '/') false "HEAD" "/datasets/4f-a/records/17".toList =
      .handler .handleGetDatasetRecord ["4f-a".toList, "17".toList] := by
  refine ((routed_iff (firstMatch String '/') false "HEAD" "/datasets/4f-a/records/17".toList (by decide)
    (by decide)).1 _ _).mpr ⟨⟨"GET", (compile "/datasets/([a-zA-Z0-9-]+)/records/([0-9]+)").getD [],
      .handleGetDatasetRecord⟩, List.mem_filterMap.mpr
        ⟨⟨"GET", "/datasets/([a-zA-Z0-9-]+)/records/([0-9]+)", .handleGetDatasetRecord⟩, ?_, ?_⟩, rfl, rfl, ?_⟩
  · decide +kernel
  · decide +kernel
  · decide +kernel

end TelemetryLab.Server
