import Destructure.Config.Document
import Destructure.Proofs.Config.Record
import Destructure.Proofs.Config.Writing

set_option autoImplicit false

/-! # Reading configurations back

However a configuration is written, decoding gives it back (`MatchConfig.ofJson_undoes_writing`). A
record is read field by field, and every way to write a field gives its content. For patterns and guards
this goes up from the parts: it holds at every place of a document, by itself or inside another form. -/

namespace Destructure

open Record
open Json (Dialect)

/-! ## Fields -/

section

variable {F : Type} {C : F → Type} {decode : (form : F) → Json → Except DecodeError (C form)}
  {name : String} {form : F} {found : Option Json}

theorem admits_required {tree : Json} {content : C form} (hfound : found = some tree)
    (h : decode form tree = .ok content) :
    FieldSpec.Admits (.required name form) (found.map (Part.ofJson decode)) content := by
  subst hfound
  exact h

theorem admits_defaulted {tree : Json} {content : C form} (hfound : found = some tree)
    (h : decode form tree = .ok content) :
    FieldSpec.Admits (.defaulted name form) (found.map (Part.ofJson decode)) (some content) := by
  subst hfound
  exact map_eq_ok.2 ⟨content, h, rfl⟩

theorem admits_default (hfound : found = none) :
    FieldSpec.Admits (.defaulted name form) (found.map (Part.ofJson decode)) none := by
  subst hfound
  rfl

theorem admits_absent (hfound : found = none ∨ found = some .null) :
    FieldSpec.Admits (.optional name form) (found.map (Part.ofJson decode)) none := by
  obtain rfl | rfl := hfound
  · rfl
  · rfl

variable {P : Json → Prop} {content : C form}

theorem Given.admits (hgiven : Given P found) (h : ∀ tree, P tree → decode form tree = .ok content) :
    FieldSpec.Admits (.required name form) (found.map (Part.ofJson decode)) content := by
  obtain ⟨tree, hfound, htree⟩ := hgiven
  exact admits_required hfound (h tree htree)

/-- Null would say that there is no content, so it must not be a way to write it. -/
theorem Given.admits_optional (hgiven : Given P found)
    (h : ∀ tree, P tree → decode form tree = .ok content)
    (hnull : ∀ tree, P tree → tree.isNull = false) :
    FieldSpec.Admits (.optional name form) (found.map (Part.ofJson decode)) (some content) := by
  obtain ⟨tree, rfl, htree⟩ := hgiven
  have hread : FieldSpec.read (.optional name form) (Part.ofJson decode tree)
      = if tree.isNull then .ok none else some <$> decode form tree := rfl
  refine hread.trans ?_
  rw [hnull tree htree, h tree htree]
  rfl

theorem GivenOptional.admits {P : C form → Json → Prop} {content : Option (C form)}
    (hgiven : GivenOptional P content found)
    (h : ∀ a tree, P a tree → decode form tree = .ok a)
    (hnull : ∀ a tree, P a tree → tree.isNull = false) :
    FieldSpec.Admits (.optional name form) (found.map (Part.ofJson decode)) content := by
  cases content with
  | none => exact admits_absent hgiven
  | some a => exact Given.admits_optional hgiven (h a) (hnull a)

end

theorem IsText.isNull {text : String} {tree : Json} (h : IsText text tree) : tree.isNull = false := by
  subst h
  rfl

/-! ## Forms -/

namespace Form

theorem entryParts_eq (entries : List (String × Json)) :
    entryParts entries
      = entries.map fun entry => (entry.1, Part.ofJson (decode .buffered) entry.2) := by
  induction entries with
  | nil => rfl
  | cons entry rest ih =>
    rw [List.map_cons, ← ih]
    rfl

/-- The fields under their keys have these contents. -/
def Fits (schema : List (FieldSpec Form)) (contents : Contents Content schema)
    (field : String → Option Json) : Prop :=
  Supplied (fun name => (field name).map (Part.ofJson (decode .buffered))) schema contents

variable {schema : List (FieldSpec Form)} {contents : Contents Content schema}
  {layer : Layer} {tree : Json} {word : String} {P : (String → Option Json) → Prop}

theorem ofEntries_entryParts {entries : List (String × Json)} (hkeys : (Entries.keys entries).Nodup)
    (hnames : (schema.map (·.name)).Nodup) (h : Fits schema contents (Entries.find? · entries)) :
    ofEntries schema (entryParts entries) = .ok contents := by
  rw [entryParts_eq]
  exact ofEntries_ofJson hkeys hnames h

/-- In a tagged form the type gives the tag, and the entries give the fields of that tag. -/
theorem fields_of_isTagged {α : Type} {table : List (String × α)} {a : α}
    (hword : Entries.find? word table = some a) (htree : tree.IsTagged word P)
    (hnames : (schema.map (·.name)).Nodup) (h : ∀ field, P field → Fits schema contents field) :
    ∃ entries, tree = .object entries ∧ (∀ layer, tagAmong layer table none entries = .ok a) ∧
      ofEntries schema (entryParts entries) = .ok contents := by
  obtain ⟨entries, rfl, hkeys, htype, hfields⟩ := htree
  exact ⟨entries, rfl, fun layer => tagAmong_of_find? hkeys htype hword,
    ofEntries_entryParts hkeys hnames (h _ hfields)⟩

theorem decode_pattern (tag : PatternTag) (contents : Contents Content tag.schema)
    (hword : Entries.find? word PatternTag.table = some tag) (htree : tree.IsTagged word P)
    (h : ∀ field, P field → Fits tag.schema contents field) :
    decode layer .pattern tree = .ok (tag.config contents) := by
  have hnames : (tag.schema.map (·.name)).Nodup := by cases tag <;> decide
  obtain ⟨entries, rfl, htag, hfields⟩ := fields_of_isTagged hword htree hnames h
  exact bind_eq_ok.2 ⟨tag, htag layer, map_eq_ok.2 ⟨contents, hfields, rfl⟩⟩

theorem decode_guard (tag : GuardTag) (contents : Contents Content tag.schema)
    (hword : Entries.find? word GuardTag.table = some tag) (htree : tree.IsTagged word P)
    (h : ∀ field, P field → Fits tag.schema contents field) :
    decode layer .guard tree = .ok (tag.config contents) := by
  have hnames : (tag.schema.map (·.name)).Nodup := by cases tag <;> decide
  obtain ⟨entries, rfl, htag, hfields⟩ := fields_of_isTagged hword htree hnames h
  exact bind_eq_ok.2 ⟨tag, htag layer, map_eq_ok.2 ⟨contents, hfields, rfl⟩⟩

theorem decode_field {key : String} {config : PatternConfig} (htree : tree.IsObject P)
    (h : ∀ field, P field → Fits fieldSchema (key, config, ()) field) :
    decode layer .field tree = .ok (key, config) := by
  obtain ⟨entries, rfl, hkeys, hfields⟩ := htree
  exact map_eq_ok.2 ⟨_, ofEntries_entryParts hkeys (by decide) (h _ hfields), rfl⟩

theorem decode_op {op : CompareOp} (h : op.Written tree) : decode layer .op tree = .ok op := by
  obtain rfl | rfl := h
  · cases op <;> rfl
  · cases op <;> rfl

theorem decode_text {text : String} (h : IsText text tree) : decode layer .text tree = .ok text := by
  subst h
  rfl

theorem decode_data (value : Json) : decode layer .data value = .ok value := by
  cases value <;> rfl

/-- Settings that are missing are an empty object. -/
theorem decode_extractor {source : ExtractorConfig} (h : source.Written tree) :
    decode layer .extractor tree = .ok source := by
  obtain ⟨entries, rfl, hkeys, htype, hconfig⟩ := h
  obtain ⟨typeUrl, config⟩ := source
  obtain hconfig | ⟨hconfig, hempty⟩ := hconfig
  · have hfits : Fits ExtractorConfig.schema (typeUrl, some config, ()) (Entries.find? · entries) :=
      ⟨admits_required htype rfl, admits_defaulted hconfig (decode_data config), trivial⟩
    exact map_eq_ok.2 ⟨_, ofEntries_entryParts hkeys (by decide) hfits, rfl⟩
  · obtain rfl : config = .object [] := hempty
    have hfits : Fits ExtractorConfig.schema (typeUrl, none, ()) (Entries.find? · entries) :=
      ⟨admits_required htype rfl, admits_default hconfig, trivial⟩
    exact map_eq_ok.2 ⟨_, ofEntries_entryParts hkeys (by decide) hfits, rfl⟩

variable {name : String} {form : Form} {found : Option Json}

theorem admits_array {content : form.Content} {Q : List Json → Prop}
    (hgiven : Given (·.IsArray Q) found) (h : ∀ items, Q items →
      ofArray .buffered (.array items) items.head? (partsOf items) form = .ok content) :
    FieldSpec.Admits (.required name form) (found.map (Part.ofJson (decode .buffered))) content := by
  refine hgiven.admits fun tree htree => ?_
  obtain ⟨items, rfl, hitems⟩ := htree
  exact h items hitems

theorem admits_rest {rest : Option String} (hgiven : GivenOptional IsText rest found) :
    FieldSpec.Admits (.optional name .text) (found.map (Part.ofJson (decode .buffered))) rest :=
  hgiven.admits (fun _ _ => decode_text) fun _ _ => IsText.isNull

end Form

/-! ## Patterns -/

namespace PatternConfig

theorem Written.isNull {config : PatternConfig} {tree : Json} (h : config.Written tree) :
    tree.isNull = false := by
  cases config
  all_goals
    obtain ⟨_, rfl, _⟩ := h
    rfl

mutual

/-- A pattern is read back wherever it stands. -/
theorem decode_of_written {layer : Layer} : (config : PatternConfig) → {tree : Json} →
    config.Written tree → Form.decode layer .pattern tree = .ok config
  | .literal value, _, h => Form.decode_pattern .literal (value, ()) rfl h fun _ hvalue =>
    ⟨admits_required hvalue (Form.decode_data value), trivial⟩
  | .wildcard, _, h => Form.decode_pattern .wildcard () rfl h fun _ _ => trivial
  | .bind name, _, h => Form.decode_pattern .bind (name, ()) rfl h fun _ hname =>
    ⟨admits_required hname rfl, trivial⟩
  | .sequence elements rest, _, h =>
    Form.decode_pattern .sequence (elements, rest, ()) rfl h fun _ ⟨helements, hrest⟩ =>
      ⟨Form.admits_array helements fun _ => mapM_of_writtenElements elements,
        Form.admits_rest hrest, trivial⟩
  | .mapping fields rest, _, h =>
    Form.decode_pattern .mapping (fields, rest, ()) rfl h fun _ ⟨hfields, hrest⟩ =>
      ⟨Form.admits_array hfields fun _ => mapM_of_writtenFields fields, Form.admits_rest hrest,
        trivial⟩
  | .alternation branches, _, h =>
    Form.decode_pattern .alternation (branches, ()) rfl h fun _ hbranches =>
      ⟨Form.admits_array hbranches fun _ => mapM_of_writtenAll branches, trivial⟩
  | .conjunction members, _, h =>
    Form.decode_pattern .conjunction (members, ()) rfl h fun _ hmembers =>
      ⟨Form.admits_array hmembers fun _ => mapM_of_writtenAll members, trivial⟩
  | .predicate name, _, h => Form.decode_pattern .predicate (name, ()) rfl h fun _ hname =>
    ⟨admits_required hname rfl, trivial⟩
  | .extractor source inner, _, h =>
    Form.decode_pattern .extractor (source, inner, ()) rfl h fun _ ⟨hsource, hinner⟩ =>
      ⟨hsource.admits fun _ => Form.decode_extractor, admits_of_writtenInner inner hinner, trivial⟩
  | .regex expression inner, _, h =>
    Form.decode_pattern .regex (expression, inner, ()) rfl h fun _ ⟨hexpression, hinner⟩ =>
      ⟨admits_required hexpression rfl, admits_of_writtenInner inner hinner, trivial⟩
  | .constant name, _, h => Form.decode_pattern .constant (name, ()) rfl h fun _ hname =>
    ⟨admits_required hname rfl, trivial⟩

theorem mapM_of_writtenAll : (configs : List PatternConfig) → {items : List Json} →
    WrittenAll configs items → (Form.partsOf items).mapM (·.decode .pattern) = .ok configs
  | [], _, h => by
    obtain rfl := h
    rfl
  | config :: rest, _, ⟨_, _, h, hconfig, hrest⟩ => by
    obtain rfl := h
    exact mapM_cons_of_ok (config.decode_of_written hconfig) (mapM_of_writtenAll rest hrest)

theorem mapM_of_writtenElements : (elements : List (Option PatternConfig)) → {items : List Json} →
    WrittenElements elements items →
    (Form.partsOf items).mapM
      (fun part => if part.isNull then pure none else some <$> part.decode .pattern) = .ok elements
  | [], _, h => by
    obtain rfl := h
    rfl
  | none :: rest, _, ⟨_, h, hrest⟩ => by
    obtain rfl := h
    exact mapM_cons_of_ok rfl (mapM_of_writtenElements rest hrest)
  | some config :: rest, _, ⟨item, _, h, hconfig, hrest⟩ => by
    obtain rfl := h
    have hitem : Form.decode .buffered .pattern item = .ok config := config.decode_of_written hconfig
    refine mapM_cons_of_ok ?_ (mapM_of_writtenElements rest hrest)
    exact (if_neg (Bool.eq_false_iff.1 hconfig.isNull)).trans (map_eq_ok.2 ⟨config, hitem, rfl⟩)

theorem mapM_of_writtenFields : (fields : List (String × PatternConfig)) → {items : List Json} →
    WrittenFields fields items → (Form.partsOf items).mapM (·.decode .field) = .ok fields
  | [], _, h => by
    obtain rfl := h
    rfl
  | (_, config) :: rest, _, ⟨_, _, h, hfield, hrest⟩ => by
    obtain rfl := h
    refine mapM_cons_of_ok ?_ (mapM_of_writtenFields rest hrest)
    exact Form.decode_field hfield fun _ ⟨hkey, hconfig⟩ =>
      ⟨admits_required hkey rfl, hconfig.admits fun _ => config.decode_of_written, trivial⟩

theorem admits_of_writtenInner {name : String} : (inner : Option PatternConfig) →
    {found : Option Json} → WrittenInner inner found →
    FieldSpec.Admits (.optional name .pattern) (found.map (Part.ofJson (Form.decode .buffered)))
      inner
  | none, _, h => admits_absent h
  | some config, _, h =>
    Given.admits_optional h (fun _ => config.decode_of_written) fun _ => Written.isNull

end

end PatternConfig

/-! ## Guards -/

namespace GuardConfig

theorem Written.isNull {config : GuardConfig} {tree : Json} (h : config.Written tree) :
    tree.isNull = false := by
  cases config
  all_goals
    obtain ⟨_, rfl, _⟩ := h
    rfl

mutual

/-- A guard is read back wherever it stands. -/
theorem decode_of_written {layer : Layer} : (config : GuardConfig) → {tree : Json} →
    config.Written tree → Form.decode layer .guard tree = .ok config
  | .compare binding op value, _, h =>
    Form.decode_guard .compare (binding, op, value, ()) rfl h fun _ ⟨hbinding, hop, hvalue⟩ =>
      ⟨admits_required hbinding rfl, hop.admits fun _ => Form.decode_op,
        admits_required hvalue (Form.decode_data value), trivial⟩
  | .all members, _, h => Form.decode_guard .all (members, ()) rfl h fun _ hmembers =>
    ⟨Form.admits_array hmembers fun _ => mapM_of_writtenAll members, trivial⟩
  | .any members, _, h => Form.decode_guard .any (members, ()) rfl h fun _ hmembers =>
    ⟨Form.admits_array hmembers fun _ => mapM_of_writtenAll members, trivial⟩
  | .not inner, _, h => Form.decode_guard .not (inner, ()) rfl h fun _ hinner =>
    ⟨hinner.admits fun _ => inner.decode_of_written, trivial⟩
  | .bound name, _, h => Form.decode_guard .bound (name, ()) rfl h fun _ hname =>
    ⟨admits_required hname rfl, trivial⟩
  | .named name, _, h => Form.decode_guard .named (name, ()) rfl h fun _ hname =>
    ⟨admits_required hname rfl, trivial⟩

theorem mapM_of_writtenAll : (configs : List GuardConfig) → {items : List Json} →
    WrittenAll configs items → (Form.partsOf items).mapM (·.decode .guard) = .ok configs
  | [], _, h => by
    obtain rfl := h
    rfl
  | config :: rest, _, ⟨_, _, h, hconfig, hrest⟩ => by
    obtain rfl := h
    exact mapM_cons_of_ok (config.decode_of_written hconfig) (mapM_of_writtenAll rest hrest)

end

end GuardConfig

/-! ## Clauses and match expressions -/

theorem readText_of_isText {dialect : Dialect} {text : String} {tree : Json} (h : IsText text tree) :
    readText dialect tree = .ok text := by
  subst h
  cases dialect <;> rfl

namespace ClauseConfig

theorem ofJson_of_written {dialect : Dialect} {config : ClauseConfig String} {tree : Json}
    (h : config.Written tree) : ofJson dialect tree = .ok config := by
  obtain ⟨entries, rfl, hkeys, hcapture, hpattern, hguard, hbody⟩ := h
  have hread : readText dialect (.text config.body) = .ok config.body := readText_of_isText rfl
  have hsupplied : Supplied
      (fun name => (Entries.find? name entries).map (Part.ofJson (ClauseForm.decode dialect))) schema
      (config.capture, config.pattern, config.guard, config.body, ()) :=
    ⟨hcapture.admits (fun config _ => config.decode_of_written) fun _ _ h => h.isNull,
      hpattern.admits (fun config _ => config.decode_of_written) fun _ _ h => h.isNull,
      hguard.admits (fun config _ => config.decode_of_written) fun _ _ h => h.isNull,
      admits_required hbody hread, trivial⟩
  exact bind_eq_ok.2 ⟨_, ofEntries_ofJson hkeys (by decide) hsupplied, rfl⟩

end ClauseConfig

namespace MatchConfig

theorem mapM_of_forall₂ {dialect : Dialect} {configs : List (ClauseConfig String)}
    {items : List Json} (h : List.Forall₂ ClauseConfig.Written configs items) :
    items.mapM (ClauseConfig.ofJson dialect) = .ok configs := by
  induction h with
  | nil => rfl
  | cons hclause _ ih => exact mapM_cons_of_ok (ClauseConfig.ofJson_of_written hclause) ih

/-- Whatever way a match expression is written, it is read back, and there is a canonical way. -/
theorem ofJson_undoes_writing (dialect : Dialect) (config : MatchConfig String) :
    config.Written config.toJson ∧ ∀ tree, config.Written tree → ofJson dialect tree = .ok config := by
  refine ⟨config.written_toJson, fun tree h => ?_⟩
  obtain ⟨entries, rfl, hkeys, hclauses, hdefault⟩ := h
  have hsupplied : Supplied
      (fun name => (Entries.find? name entries).map (Part.ofJson (MatchForm.decode dialect))) schema
      (config.clauses, config.default, ()) := by
    refine ⟨hclauses.admits fun _ hlist => ?_,
      hdefault.admits (fun _ _ => readText_of_isText) fun _ _ => IsText.isNull, trivial⟩
    obtain ⟨items, rfl, hitems⟩ := hlist
    exact mapM_of_forall₂ hitems
  exact bind_eq_ok.2 ⟨_, ofEntries_ofJson hkeys (by decide) hsupplied, rfl⟩

/-- A tree with its keys in another order, an unknown key, a hole, null and missing parts, and an
operator as a symbol. -/
theorem ofJson_undoes_writing_reordered :
    ofJson .json (.object [("default", .null), ("note", .int 1), ("clauses", .array
      [.object [("body", .text "x"),
        ("guard", .object [("value", .null), ("op", .text "<="), ("type", .text "compare"),
          ("binding", .text "b")]),
        ("pattern", .object [("rest", .text "r"), ("elements", .array
            [.null, .object [("extractor", .object [("type_url", .text "u")]),
              ("type", .text "extractor")]]),
          ("type", .text "sequence")])]])])
      = .ok ⟨[⟨none, some (.sequence [none, some (.extractor ⟨"u", .object []⟩ none)] (some "r")),
        some (.compare "b" .le .null), "x"⟩], none⟩ := by
  refine (ofJson_undoes_writing .json _).2 _
    ⟨_, rfl, by simp [Entries.keys], ⟨_, rfl, _, rfl, .cons ?_ .nil⟩, .inr rfl⟩
  refine ⟨_, rfl, by simp [Entries.keys], .inl rfl, ⟨_, rfl, ?_⟩, ⟨_, rfl, ?_⟩, rfl⟩
  · have hextractor : PatternConfig.Written (.extractor ⟨"u", .object []⟩ none)
        (.object [("extractor", .object [("type_url", .text "u")]), ("type", .text "extractor")]) :=
      ⟨_, rfl, by simp [Entries.keys], rfl,
        ⟨_, rfl, _, rfl, by simp [Entries.keys], rfl, .inr ⟨rfl, rfl⟩⟩, .inl rfl⟩
    exact ⟨_, rfl, by simp [Entries.keys], rfl,
      ⟨_, rfl, _, rfl, _, rfl, _, _, rfl, hextractor, rfl⟩, _, rfl, rfl⟩
  · exact ⟨_, rfl, by simp [Entries.keys], rfl, rfl, ⟨_, rfl, .inr rfl⟩, rfl⟩

end MatchConfig

end Destructure
