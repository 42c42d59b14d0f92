import Destructure.Config.Record
import Destructure.Registry.Basic

set_option autoImplicit false

/-! # The kind extractor

The extractor that every registry should have: it accepts the subjects of one kind. Its settings are
a record that names the kind. -/

namespace Destructure

open Record

/-- The words for the kinds. -/
def Kind.table : List (String × Kind) := Kind.all.map fun kind => (kind.name, kind)

namespace KindSettings

def schema : List (FieldSpec Unit) := [.required "kind" ()]

/-- The record that holds the settings. -/
def title : String := "struct KindExtractorConfig"

/-- The kind that the settings name. -/
def decode (settings : Json) : Except DecodeError Kind :=
  let part := Part.ofJson (C := fun _ => Kind) fun _ tree => unitVariant .document Kind.table tree
  match settings with
  | .object entries =>
    (·.1) <$> ofEntries schema (entries.map fun entry => (entry.1, part entry.2))
  | .array items => (·.1) <$> ofItems .document title schema (items.map part)
  | tree => .error (.wrongType tree title)

end KindSettings

/-- An extractor from settings in some form. -/
def factory {α : Type} (decode : Json → Except DecodeError α) (make : α → Extractor) :
    ExtractorFactory := fun settings =>
  match decode settings with
  | .ok a => .ok (make a)
  | .error e => .error (.invalidConfig e.message)

/-- An extractor that has no settings. -/
def plainFactory (extractor : Extractor) : ExtractorFactory := fun _ => .ok extractor

/-- The entries that every registry should have. -/
def coreEntries : List Registration :=
  [.extractor "pmatch.core.v1.KindExtractor" (factory KindSettings.decode Extractor.ofKind)]

end Destructure
