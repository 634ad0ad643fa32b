import TelemetryLab.Pca.Trainer

/-! The artifact file and the model read from it: `WriteArtifactJson` in
`training/pca_trainer.cpp`, `PcaModel::Load` and `PcaModel::Score` in
`detectors/pca_model.cpp`.

The fields of a JSON object stand in the order of their keys. The text of a file
and its reading belong to the JSON library, which is a parameter here.
-/

set_option autoImplicit false
namespace TelemetryLab.Pca

variable {R : Type} [Arith R]

inductive Json (R : Type) where
  | null
  | bool (b : Bool)
  | number (x : R)
  | integer (z : Int)
  | string (s : String)
  | array (elements : List (Json R))
  | object (fields : List (String × Json R))

namespace Json

def fields : Json R → List (String × Json R)
  | .object fields => fields
  | _ => []

def insertField (key : String) (value : Json R) : List (String × Json R) → List (String × Json R)
  | [] => [(key, value)]
  | (k, v) :: rest =>
    if key = k then (k, value) :: rest
    else if key < k then (key, value) :: (k, v) :: rest
    else (k, v) :: insertField key value rest

/-- The assignment `j[key1][key2] = value`; a null on the way becomes an object. -/
def put : Json R → List String → Json R → Json R
  | _, [], value => value
  | j, key :: path, value => .object (insertField key (put ((j.fields.lookup key).getD .null) path value) j.fields)

def ofDoubles (values : List R) : Json R := .array (values.map .number)

def typeName : Json R → String
  | .null => "null"
  | .bool _ => "boolean"
  | .number _ | .integer _ => "number"
  | .string _ => "string"
  | .array _ => "array"
  | .object _ => "object"

/-- `j[key]`, which a missing field makes null. -/
def get (key : String) : Json R → Except Thrown (Json R)
  | .null => .ok .null
  | .object fields => .ok ((fields.lookup key).getD .null)
  | j => .error (.typeError ("cannot use operator[] with a string argument with " ++ j.typeName))

/-- `j[key1][key2]` -/
def follow (j : Json R) : List String → Except Thrown (Json R)
  | [] => .ok j
  | key :: path => (j.get key).bind fun next => next.follow path

/-- `get<double>` -/
def getDouble : Json R → Except Thrown R
  | .number x => .ok x
  | .integer z => .ok (Arith.ofInt z)
  | j => .error (.typeError ("type must be number, but is " ++ j.typeName))

def getArray : Json R → Except Thrown (List (Json R))
  | .array elements => .ok elements
  | j => .error (.typeError ("type must be array, but is " ++ j.typeName))

/-- `get<std::vector<double>>` -/
def getDoubles (j : Json R) : Except Thrown (List R) := do (← j.getArray).mapM getDouble

/-- `get<std::vector<std::vector<double>>>` -/
def getRows (j : Json R) : Except Thrown (List (List R)) := do (← j.getArray).mapM getDoubles

end Json

/-- The rows of a matrix as the trainer copies them. -/
def componentsRows (m : Matrix R) : List (List R) :=
  (List.range m.rows).map fun r => (List.range m.cols).map fun c => m.get r c

/-- The document `WriteArtifactJson` builds. -/
def artifactJson (artifact : PcaArtifact R) : Json R :=
  let j : Json R := .null
  let j := j.put ["meta", "version"] (.string "v1")
  let j := j.put ["meta", "type"] (.string "pca_reconstruction")
  let j := j.put ["meta", "features"] (.array (getFeatureNames.map .string))
  let j := j.put ["preprocessing", "mean"] (.ofDoubles artifact.scalerMean)
  let j := j.put ["preprocessing", "scale"] (.ofDoubles artifact.scalerScale)
  let j := j.put ["model", "components"] (.array ((componentsRows artifact.components).map .ofDoubles))
  let j := j.put ["model", "explained_variance"] (.ofDoubles artifact.explainedVariance)
  let j := j.put ["model", "mean"] (.ofDoubles artifact.pcaMean)
  let j := j.put ["model", "n_components"] (.integer artifact.nComponents)
  j.put ["thresholds", "reconstruction_error"] (.number artifact.threshold)

/-- The JSON library as the code uses it: `dump(4)` and the reading of a stream. -/
structure JsonText (R Text : Type) where
  dump : Json R → Text
  parse : Text → Except Thrown (Json R)

/-- The files by their path, and the paths that can be opened for writing. -/
structure Disk (Text : Type) where
  files : String → Option Text
  writable : String → Bool

section Files

variable {Text : Type}

def writeArtifactJson (library : JsonText R Text) (artifact : PcaArtifact R) (outputPath : String)
    (disk : Disk Text) : Except Thrown (Disk Text) :=
  if disk.writable outputPath then
    .ok { disk with files := Function.update disk.files outputPath (some (library.dump (artifactJson artifact))) }
  else .error (.runtimeError ("Failed to open output path: " ++ outputPath))

structure PcaModel (R : Type) where
  loaded : Bool
  curMean : List R
  curScale : List R
  components : Matrix R
  pcaMean : List R
  threshold : R

def PcaModel.empty : PcaModel R := ⟨false, [], [], Matrix.zeros 0 0, [], 0⟩

/-- The copy of the components into a matrix of `k` rows and `d` columns, which
reads past the end of a row that is shorter than the first one. -/
def copyComponents (raw : List (List R)) (k d : Nat) : Except Thrown (Matrix R) :=
  if raw.all fun row => d ≤ row.length then .ok (Matrix.tabulate k d fun i c => (raw.getD i []).getD c 0)
  else .error .undefined

/-- `PcaModel::Load` from the document on. -/
def PcaModel.ofJson (j : Json R) : Except Thrown (PcaModel R) := do
  let rawMean ← (← j.follow ["preprocessing", "mean"]).getDoubles
  let rawScale ← (← j.follow ["preprocessing", "scale"]).getDoubles
  if rawMean.length ≠ kSize ∨ rawScale.length ≠ kSize then
    throw (.runtimeError "Dimension mismatch in artifact preprocessing")
  let rawComponents ← (← j.follow ["model", "components"]).getRows
  let k := rawComponents.length
  if k = 0 then
    throw (.runtimeError "No PCA components found")
  let d := (rawComponents.getD 0 []).length
  if d ≠ kSize then
    throw (.runtimeError "Dimension mismatch in PCA components")
  let components ← copyComponents rawComponents k d
  let rawPcaMean ← (← j.follow ["model", "mean"]).getDoubles
  let threshold ← (← j.follow ["thresholds", "reconstruction_error"]).getDouble
  pure ⟨true, rawMean, rawScale, components, rawPcaMean, threshold⟩

def PcaModel.load (library : JsonText R Text) (artifactPath : String) (disk : Disk Text) :
    Except Thrown (PcaModel R) :=
  match disk.files artifactPath with
  | none => .error (.runtimeError ("Failed to open artifact: " ++ artifactPath))
  | some text => (library.parse text).bind PcaModel.ofJson

end Files

structure PcaScore (R : Type) where
  isAnomaly : Bool
  reconstructionError : R
  residuals : List R
  details : String

/-- The text that a stream writes for a number. -/
class StreamText (R : Type) where
  /-- As after `std::fixed` and `std::setprecision(1)`. -/
  fixed1 : R → String
  plain : R → String

def PcaModel.score [StreamText R] (model : PcaModel R) (vec : FeatureVector R) : Except Thrown (PcaScore R) := do
  if !model.loaded then
    return ⟨false, 0, [], ""⟩
  let xRaw := vec.data.toList
  let xScaled ← vecDiv (← vecSub xRaw model.curMean) model.curScale
  let xCentered ← vecSub xScaled model.pcaMean
  let xProj ← matvec model.components xCentered
  let xReconCenteredCol ← matvec (transpose model.components) xProj
  let xReconScaled ← vecAdd xReconCenteredCol model.pcaMean
  let diff ← vecSub xScaled xReconScaled
  let reconstructionError ← l2Norm diff
  if reconstructionError > model.threshold then
    return ⟨true, reconstructionError, diff,
      "PCA_RECON_ERR=" ++ StreamText.plain reconstructionError ++ " > " ++ StreamText.plain model.threshold⟩
  return ⟨false, reconstructionError, diff, ""⟩

def PcaModel.flags [StreamText R] (model : PcaModel R) (vec : FeatureVector R) : Bool :=
  match model.score vec with
  | .ok score => score.isAnomaly
  | .error _ => false

end TelemetryLab.Pca
