import Packrat.File.Reader

/-! Loading and saving languages, over any way to access files. -/
namespace Packrat

/-- How texts are read and written. What fails gives its reason. -/
structure FileAccess (m : Type → Type) where
  read : (path : String) → m (Except String String)
  write : (path text : String) → m (Except String Unit)

def Language.loadingRecord (path : String) : Log.Record :=
  ⟨.debug, .file, "loading grammar from " ++ path⟩

def Language.load {m : Type → Type} [Monad m] (files : FileAccess m) (path : String) (config : Config) :
    m (Except FileError Language × List Log.Record) := do
  let loading := Language.loadingRecord path
  match Format.ofPath path with
  | .error e => return (.error e, [loading])
  | .ok format =>
    match ← files.read path with
    | .error reason => return (.error (.access path reason), [loading])
    | .ok text =>
      match Language.read text format config with
      | .error e => return (.error e, [loading])
      | .ok (language, log) => return (.ok language, loading :: log)

/-- Saves a language to a file, whose name tells its format; yields the text written. -/
def Language.save {m : Type → Type} [Monad m] (files : FileAccess m) (l : Language) (path : String) :
    m (Except FileError String) := do
  match Format.ofPath path with
  | .error e => return .error e
  | .ok format =>
    let text := (GrammarFile.ofLanguage l).write format
    match ← files.write path text with
    | .error reason => return .error (.access path reason)
    | .ok () => return .ok text

end Packrat
