import ContentClasses.Generation.Error
import ContentClasses.Model.Batch
import ContentClasses.Schema.Reader

/-! A generation run: types are fetched, classes are built, and an emitter writes them. -/

namespace ContentClasses

/-- Something that writes classes and changes a state of its own while it does. -/
structure Emitter (σ : Type) where
  /-- Told about the whole batch before the first class is written. -/
  announce : σ → List ClassSpec → σ
  /-- Writes one class and answers the path of its file. -/
  write : σ → ClassSpec → Except IoCause String × σ

namespace Emitter

/-- Writes classes in order up to the first failure. -/
def writeEach {σ : Type} (emitter : Emitter σ) (state : σ) :
    List ClassSpec → Except GenerationError (List String) × σ
  | [] => (.ok [], state)
  | spec :: rest =>
    match emitter.write state spec with
    | (.error cause, reached) => (.error (.emit spec.name cause), reached)
    | (.ok path, reached) =>
      match emitter.writeEach reached rest with
      | (.ok paths, final) => (.ok (path :: paths), final)
      | (.error error, final) => (.error error, final)

/-- Announces a batch of classes and writes them in order up to the first failure. -/
def writeAll {σ : Type} (emitter : Emitter σ) (state : σ) (specs : List ClassSpec) :
    Except GenerationError (List String) × σ :=
  emitter.writeEach (emitter.announce state specs) specs

end Emitter

/-- What a finished run has made. -/
structure RunSummary where
  specs : List ClassSpec
  /-- The paths of the written files, in the order of the classes. -/
  written : List String
  diagnostics : Diagnostics

/-- Builds the fetched types and writes their classes, unless a finding was graded as an error. -/
def CodegenConfig.run {σ : Type} (config : CodegenConfig)
    (fetched : Except GenerationError (List ContentType)) (emitter : Emitter σ) (state : σ) :
    Except GenerationError RunSummary × σ :=
  match fetched with
  | .error error => (.error error, state)
  | .ok types =>
    let batch := config.generate types
    if batch.diagnostics.hasErrors then
      (.error (.diagnostics batch.diagnostics.errorSummary), state)
    else match emitter.writeAll state batch.specs with
      | (.ok written, final) => (.ok ⟨batch.specs, written, batch.diagnostics⟩, final)
      | (.error error, final) => (.error error, final)

/-- The content types of a listing in a text. -/
def listedTypes (text : String) : Except GenerationError (List ContentType) :=
  (parseTypeListing text).mapError .json

/-- The content types of a listing in a file. -/
def FileSystem.fetchTypes (files : FileSystem) (path : String) :
    Except GenerationError (List ContentType) :=
  match files.readText path with
  | .error cause => .error (.schema path cause)
  | .ok text => listedTypes text

end ContentClasses
