import Mathlib.Data.List.Forall2
import Mathlib.Data.List.Nodup
import QuizCompiler.Proofs.WrittenDocuments
import QuizCompiler.Quiz.Config
import QuizCompiler.Quiz.Exchange

/-! # Configurations from some of their options

A configuration is read from every table that gives some of its options, in any order and among
whatever else. The options that are not given have their defaults. JSON objects and TOML tables
do not differ in this.
-/

namespace QuizCompiler.Quiz

open Data

/-! ## What values show -/

/-- How values are looked at. -/
structure View (V : Type) where
  /-- The truth value, or nothing. -/
  flag? : V → Option (Option Bool)
  text? : V → Option String
  items? : V → Option (List V)
  /-- The members of a table with their names. -/
  members? : V → Option (List (String × V))

/-- How JSON values are looked at. -/
def View.json : View Json where
  flag?
    | .bool shown => some (some shown)
    | .null => some none
    | _ => none
  text?
    | .text text => some text
    | _ => none
  items?
    | .list items => some items
    | _ => none
  members?
    | .object members => some members
    | _ => none

/-- How data are looked at, wherever they are written. -/
def View.datum : View (Located Datum) where
  flag? datum :=
    match datum.value with
    | .bool shown => some (some shown)
    | .null => some none
    | _ => none
  text? datum :=
    match datum.value with
    | .text text => some text
    | _ => none
  items? datum :=
    match datum.value with
    | .list items => some items
    | _ => none
  members? datum :=
    match datum.value with
    | .table members => some (members.map fun (key, value) => (key.value, value))
    | _ => none

/-! ## Tables with some of the options -/

namespace Config

/-- An option of a configuration. -/
inductive Field
  | progressBar
  | backButton
  | completedHtml
  | completionMessages
deriving DecidableEq

namespace Field

/-- The name of an option. -/
def name : Field → String
  | progressBar => "show_progress_bar"
  | backButton => "show_prev_button"
  | completedHtml => "completed_html"
  | completionMessages => "completed_html_on_condition"

/-- All options. -/
def all : List Field := [progressBar, backButton, completedHtml, completionMessages]

theorem mem_all (field : Field) : field ∈ all := by cases field <;> decide

end Field

/-- The options that are given, with the defaults of the others. -/
def restrict (given : Field → Bool) (config : Config) : Config where
  progressBar := if given .progressBar then config.progressBar else default.progressBar
  backButton := if given .backButton then config.backButton else default.backButton
  completedHtml := if given .completedHtml then config.completedHtml else default.completedHtml
  completionMessages :=
    if given .completionMessages then config.completionMessages else default.completionMessages

end Config

section Shows

variable {V : Type} (view : View V)

/-- A table that holds a message, and anything under other names. -/
def CompletionMessage.Shows (message : CompletionMessage) (value : V) : Prop :=
  ∃ members ∈ view.members? value, (members.map Prod.fst).Nodup ∧
    (members.lookup "expression").bind view.text? = some message.expression ∧
    (members.lookup "html").bind view.text? = some message.html

/-- What is found for an option is its value. The button may be left out if nothing is said about
it. -/
def Config.ShowsField (config : Config) (found : Option V) : Config.Field → Prop
  | .progressBar => found.bind view.text? = some config.progressBar.word
  | .backButton =>
    found.bind view.flag? = some config.backButton ∨ found = none ∧ config.backButton = none
  | .completedHtml => found.bind view.text? = some config.completedHtml
  | .completionMessages =>
    ∃ values ∈ found.bind view.items?,
      List.Forall₂ (CompletionMessage.Shows view) config.completionMessages values

/-- A table that holds the given options of a configuration and no other ones, and anything under
names that are none of options. -/
def Config.Shows (given : Config.Field → Bool) (config : Config) (value : V) : Prop :=
  ∃ members ∈ view.members? value, (members.map Prod.fst).Nodup ∧
    ∀ field ∈ Config.Field.all,
      if given field then config.ShowsField view (members.lookup field.name) field
      else members.lookup field.name = none

instance (message : CompletionMessage) (value : V) : Decidable (message.Shows view value) :=
  inferInstanceAs (Decidable (∃ members ∈ view.members? value, _ ∧ _ ∧ _))

instance (config : Config) (found : Option V) :
    (field : Config.Field) → Decidable (config.ShowsField view found field)
  | .progressBar => inferInstanceAs (Decidable (_ = some config.progressBar.word))
  | .backButton => inferInstanceAs (Decidable (_ ∨ _))
  | .completedHtml => inferInstanceAs (Decidable (_ = some config.completedHtml))
  | .completionMessages => inferInstanceAs (Decidable (∃ values ∈ found.bind view.items?, _))

instance (given : Config.Field → Bool) (config : Config) (value : V) :
    Decidable (config.Shows view given value) :=
  inferInstanceAs (Decidable (∃ members ∈ view.members? value, _ ∧ _))

end Shows

/-! ## JSON values as data -/

/-- What is found by a name in the members of a table. -/
theorem lookup_eq_member? (members : List (Located String × Located Datum)) (name : String) :
    (members.map fun (key, value) => (key.value, value)).lookup name = member? members name := by
  induction members with
  | nil => rfl
  | cons entry rest ih =>
      obtain ⟨key, value⟩ := entry
      rw [List.map_cons, List.lookup_cons, ih, member?, member?, List.find?_cons]
      dsimp only
      rw [BEq.comm]
      cases key.value == name <;> rfl

theorem lookup_map {α β : Type} (change : α → β) (members : List (String × α)) (name : String) :
    (members.map fun (key, value) => (key, change value)).lookup name =
      (members.lookup name).map change := by
  induction members with
  | nil => rfl
  | cons entry rest ih =>
      obtain ⟨key, value⟩ := entry
      rw [List.map_cons, List.lookup_cons, List.lookup_cons, ih]
      split <;> rfl

/-- A member with a new name comes behind those that are there. -/
theorem putMember_of_not_mem {name : String} {done : List (Located String × Located Datum)}
    (hnew : name ∉ done.map (·.1.value)) (value : Located Datum) :
    Json.putMember name value done = done ++ [(Json.placeless name, value)] := by
  induction done with
  | nil => rfl
  | cons entry rest ih =>
      obtain ⟨key, old⟩ := entry
      rw [List.map_cons, List.mem_cons, not_or] at hnew
      rw [Json.putMember, if_neg (Ne.symm hnew.1), ih hnew.2, List.cons_append]

/-- Members with different names all become members of the table. -/
theorem toMembers_of_nodup {members : List (String × Json)}
    {done : List (Located String × Located Datum)}
    (hnodup : (done.map (·.1.value) ++ members.map Prod.fst).Nodup) :
    Json.toMembers members done =
      done ++ members.map fun (name, value) => (Json.placeless name, value.toLocated) := by
  induction members generalizing done with
  | nil => rw [Json.toMembers, List.map_nil, List.append_nil]
  | cons entry rest ih =>
      obtain ⟨name, value⟩ := entry
      have hnew : name ∉ done.map (·.1.value) := by
        intro hmem
        exact (List.nodup_append.mp hnodup).2.2 name hmem name List.mem_cons_self rfl
      rw [Json.toMembers, putMember_of_not_mem hnew, ih]
      · simp [Json.toLocated]
      · simpa [Json.placeless] using hnodup

/-- A number is no text, no flag and no table, whatever its size. -/
theorem numberDatum_eq (literal : String) :
    (∃ value, Json.numberDatum literal = .integer value) ∨
      ∃ shown, Json.numberDatum literal = .real shown := by
  unfold Json.numberDatum
  split
  next => exact .inl ⟨_, rfl⟩
  next => exact .inr ⟨_, rfl⟩
  next => exact .inr ⟨_, rfl⟩

namespace View

/-- The same values are texts as JSON and as data. -/
theorem text?_toLocated (value : Json) : datum.text? value.toLocated = json.text? value := by
  cases value with
  | number literal =>
      change datum.text? (Json.placeless (Json.numberDatum literal)) = none
      rcases numberDatum_eq literal with ⟨_, hnumber⟩ | ⟨_, hnumber⟩
      · rw [hnumber]; rfl
      · rw [hnumber]; rfl
  | _ => rfl

theorem flag?_toLocated (value : Json) : datum.flag? value.toLocated = json.flag? value := by
  cases value with
  | number literal =>
      change datum.flag? (Json.placeless (Json.numberDatum literal)) = none
      rcases numberDatum_eq literal with ⟨_, hnumber⟩ | ⟨_, hnumber⟩
      · rw [hnumber]; rfl
      · rw [hnumber]; rfl
  | _ => rfl

theorem items?_toLocated {value : Json} {items : List Json} (hitems : items ∈ json.items? value) :
    items.map Json.toLocated ∈ datum.items? value.toLocated := by
  cases value <;> cases hitems
  have hdata := toItems_map id items
  rw [List.map_id] at hdata
  exact congrArg some hdata

/-- The members of an object are found in it as data, if they have different names. -/
theorem members?_toLocated {value : Json} {members : List (String × Json)}
    (hmembers : members ∈ json.members? value) (hnodup : (members.map Prod.fst).Nodup) :
    (members.map fun (name, value) => (name, value.toLocated)) ∈
      datum.members? value.toLocated := by
  cases value <;> cases hmembers
  have hdata : Json.toMembers members [] =
      members.map fun (name, value) => (Json.placeless name, value.toLocated) :=
    toMembers_of_nodup (by simpa using hnodup)
  change some ((Json.toMembers members []).map fun (key, value) => (key.value, value)) = some _
  rw [hdata, List.map_map]
  rfl

theorem bind_text?_toLocated (found : Option Json) :
    (found.map Json.toLocated).bind datum.text? = found.bind json.text? := by
  cases found with
  | none => rfl
  | some value => exact text?_toLocated value

end View

/-- A message that JSON shows is shown by the data made of it. -/
theorem CompletionMessage.Shows.toLocated {message : CompletionMessage} {value : Json}
    (hshows : message.Shows .json value) : message.Shows .datum value.toLocated := by
  obtain ⟨members, hmembers, hnodup, hexpression, hhtml⟩ := hshows
  refine ⟨_, View.members?_toLocated hmembers hnodup, ?_, ?_, ?_⟩
  · simpa [Function.comp_def] using hnodup
  · rw [lookup_map, View.bind_text?_toLocated, hexpression]
  · rw [lookup_map, View.bind_text?_toLocated, hhtml]

namespace Config

theorem ShowsField.toLocated {config : Config} {found : Option Json} {field : Field}
    (hshows : config.ShowsField .json found field) :
    config.ShowsField .datum (found.map Json.toLocated) field := by
  cases field with
  | progressBar => exact (View.bind_text?_toLocated found).trans hshows
  | completedHtml => exact (View.bind_text?_toLocated found).trans hshows
  | backButton =>
      rcases hshows with hflag | ⟨rfl, hunset⟩
      · cases found with
        | none => cases hflag
        | some value => exact .inl ((View.flag?_toLocated value).trans hflag)
      · exact .inr ⟨rfl, hunset⟩
  | completionMessages =>
      obtain ⟨values, hvalues, hmessages⟩ := hshows
      cases found with
      | none => cases hvalues
      | some value =>
          refine ⟨_, View.items?_toLocated hvalues, ?_⟩
          rw [List.forall₂_map_right_iff]
          exact hmessages.imp fun _ _ hmessage => hmessage.toLocated

/-- A JSON object shows the same options when it is seen as data. -/
theorem Shows.toLocated {given : Field → Bool} {config : Config} {value : Json}
    (hshows : config.Shows .json given value) :
    config.Shows .datum given value.toLocated := by
  obtain ⟨members, hmembers, hnodup, hfields⟩ := hshows
  refine ⟨_, View.members?_toLocated hmembers hnodup, ?_, fun field hmem => ?_⟩
  · simpa [Function.comp_def] using hnodup
  · have hfield := hfields field hmem
    rw [lookup_map]
    cases hgiven : given field with
    | true =>
        rw [hgiven] at hfield
        exact hfield.toLocated
    | false =>
        rw [hgiven] at hfield
        simpa using hfield

end Config

/-! ## Reading options -/

theorem eq_text_of_bind {found : Option (Located Datum)} {text : String}
    (hfound : found.bind View.datum.text? = some text) :
    ∃ place, found = some ⟨place, .text text⟩ := by
  obtain ⟨⟨place, value⟩, rfl, htext⟩ := Option.bind_eq_some_iff.mp hfound
  cases value <;> cases htext
  exact ⟨place, rfl⟩

/-- A message that is shown is decoded, in any format. -/
theorem CompletionMessage.Shows.decode {message : CompletionMessage} {datum : Located Datum}
    (hshows : message.Shows .datum datum) (format : Format) :
    CompletionMessage.record.decode format datum = .ok message := by
  obtain ⟨_, hmembers, -, hexpression, hhtml⟩ := hshows
  obtain ⟨place, value⟩ := datum
  cases value <;> cases hmembers
  rw [lookup_eq_member?] at hexpression hhtml
  obtain ⟨_, hexpression⟩ := eq_text_of_bind hexpression
  obtain ⟨_, hhtml⟩ := eq_text_of_bind hhtml
  refine decode_eq_ok (readMembers_cons hexpression rfl (readMembers_cons hhtml rfl rfl)) ?_
  simp [Record.missing?, CompletionMessage.record, CompletionMessage.expressionField,
    CompletionMessage.htmlField, hexpression, hhtml]

theorem decode_messages {messages : List CompletionMessage} {values : List (Located Datum)}
    (hshows : List.Forall₂ (CompletionMessage.Shows .datum) messages values)
    (format : Format) (place : Span) :
    Decoder.list (CompletionMessage.record.decode format) ⟨place, .list values⟩ =
      .ok messages := by
  change values.mapM (CompletionMessage.record.decode format) = .ok messages
  induction hshows with
  | nil => rfl
  | cons hmessage _ ih =>
      rw [List.mapM_cons, hmessage.decode format, ih]
      rfl

namespace Config

/-- How an option is read. -/
def Field.reader (format : Format) : Field → RecordField Config
  | progressBar => progressBarField format
  | backButton => backButtonField
  | completedHtml => completedHtmlField
  | completionMessages => completionMessagesField format

/-- Take an option from another configuration. -/
def Field.copy (source done : Config) : Field → Config
  | progressBar => { done with progressBar := source.progressBar }
  | backButton => { done with backButton := source.backButton }
  | completedHtml => { done with completedHtml := source.completedHtml }
  | completionMessages => { done with completionMessages := source.completionMessages }

/-- Reading an option that is shown takes it over from the configuration. -/
theorem ShowsField.read {config before : Config} {datum : Located Datum} {field : Field}
    (hshows : config.ShowsField .datum (some datum) field) (format : Format) :
    (field.reader format).read before datum = .ok (field.copy config before) := by
  cases field with
  | progressBar =>
      obtain ⟨place, hdatum⟩ := eq_text_of_bind hshows
      cases hdatum
      refine read_eq_ok (fun bar => { before with progressBar := bar }) ?_
      cases config.progressBar <;> rfl
  | completedHtml =>
      obtain ⟨place, hdatum⟩ := eq_text_of_bind hshows
      cases hdatum
      rfl
  | backButton =>
      rcases hshows with hflag | ⟨hfound, -⟩
      · refine read_eq_ok (fun button => { before with backButton := button }) ?_
        obtain ⟨_, button, _, _⟩ := config
        obtain ⟨place, value⟩ := datum
        cases value <;> cases hflag <;> rfl
      · cases hfound
  | completionMessages =>
      obtain ⟨values, hvalues, hmessages⟩ := hshows
      obtain ⟨place, value⟩ := datum
      cases value <;> cases hvalues
      exact read_eq_ok (fun messages => { before with completionMessages := messages })
        (decode_messages hmessages format place)

/-- Only the button can be left out. -/
theorem ShowsField.eq_backButton {config : Config} {field : Field}
    (hshows : config.ShowsField .datum none field) :
    field = .backButton ∧ config.backButton = none := by
  cases field with
  | progressBar => cases hshows
  | completedHtml => cases hshows
  | completionMessages =>
      obtain ⟨values, hvalues, -⟩ := hshows
      cases hvalues
  | backButton =>
      rcases hshows with hflag | ⟨-, hunset⟩
      · cases hflag
      · exact ⟨rfl, hunset⟩

/-- What a table shows for an option is what is read, or the default if it is not given. -/
theorem readMembers_cons_field {given : Field → Bool} {config before result : Config}
    {members : List (Located String × Located Datum)} {field : Field}
    {fields : List (RecordField Config)} (format : Format)
    (hfield : if given field then config.ShowsField .datum (member? members field.name) field
      else member? members field.name = none)
    (hunset : field = .backButton → before.backButton = none)
    (hrest : Record.readMembers members fields
      (if given field then field.copy config before else before) = .ok result) :
    Record.readMembers members (field.reader format :: fields) before = .ok result := by
  have hname : (field.reader format).name = field.name := by cases field <;> rfl
  rw [← hname] at hfield
  cases hgiven : given field with
  | false =>
      rw [hgiven] at hfield hrest
      exact readMembers_cons_of_absent hfield hrest
  | true =>
      rw [hgiven] at hfield hrest
      cases hmember : member? members (field.reader format).name with
      | some datum =>
          rw [hmember] at hfield
          exact readMembers_cons hmember (hfield.read format) hrest
      | none =>
          -- nothing was said about the button so far
          rw [hmember] at hfield
          obtain ⟨rfl, hbutton⟩ := hfield.eq_backButton
          have hsame : Field.backButton.copy config before = before := by
            rw [Field.copy, hbutton, ← hunset rfl]
          rw [if_pos rfl, hsame] at hrest
          exact readMembers_cons_of_absent hmember hrest

/-- A configuration that is shown is decoded, with the defaults in place of the options that are not
given. -/
theorem Shows.decode {given : Field → Bool} {config : Config} {datum : Located Datum}
    (hshows : config.Shows .datum given datum) (format : Format) :
    Config.decode format datum = .ok (config.restrict given) := by
  obtain ⟨_, hmembers, -, hfields⟩ := hshows
  obtain ⟨place, value⟩ := datum
  cases value <;> cases hmembers
  simp only [lookup_eq_member?] at hfields
  have hfield (field : Field) := hfields field field.mem_all
  refine decode_eq_ok ?_ rfl
  refine readMembers_cons_field format (hfield .completedHtml) nofun ?_
  refine readMembers_cons_field format (hfield .completionMessages) nofun ?_
  refine readMembers_cons_field format (hfield .backButton) (fun _ => ?_) ?_
  · cases given .completedHtml <;> cases given .completionMessages <;> rfl
  refine readMembers_cons_field format (hfield .progressBar) nofun ?_
  unfold restrict
  cases given .completedHtml <;> cases given .completionMessages <;> cases given .backButton <;>
    cases given .progressBar <;> rfl

/-! ## Written configurations -/

/-- An option as JSON. -/
def Field.toJson (config : Config) : Field → Json
  | progressBar => .text config.progressBar.word
  | backButton =>
    match config.backButton with
    | some shown => .bool shown
    | none => .null
  | completedHtml => .text config.completedHtml
  | completionMessages => .list (config.completionMessages.map CompletionMessage.toJson)

/-- The given options as members of a JSON object. -/
def membersOf (config : Config) (given : Field → Bool) : List (String × Json) :=
  (Field.all.filter given).map fun field => (field.name, field.toJson config)

/-- Whether there is something to write for an option where no value stands for nothing. -/
def isSet (config : Config) (field : Field) : Bool :=
  field != .backButton || config.backButton.isSome

/-- The options that are set decide the whole configuration. -/
theorem restrict_isSet (config : Config) : config.restrict config.isSet = config := by
  obtain ⟨_, button, _, _⟩ := config
  cases button <;> rfl

theorem showsField_toJson (config : Config) (field : Field) :
    config.ShowsField .json (some (field.toJson config)) field := by
  cases field with
  | progressBar => rfl
  | completedHtml => rfl
  | backButton =>
      obtain ⟨_, button, _, _⟩ := config
      cases button <;> exact .inl rfl
  | completionMessages =>
      refine ⟨_, rfl, ?_⟩
      rw [List.forall₂_map_right_iff, List.forall₂_same]
      exact fun message _ => ⟨_, rfl, by simp, rfl, rfl⟩

theorem Field.name_injective : Function.Injective Field.name := by
  intro field other hname
  cases field <;> cases other <;> first | rfl | exact absurd hname (by decide)

/-- Among written options each is found by its own name. -/
theorem lookup_map_name (config : Config) (fields : List Field) (field : Field) :
    (fields.map fun field => (field.name, field.toJson config)).lookup field.name =
      if field ∈ fields then some (field.toJson config) else none := by
  induction fields with
  | nil => rfl
  | cons other rest ih =>
      rw [List.map_cons, List.lookup_cons, ih]
      by_cases hsame : field = other
      · simp [hsame]
      · have hname : (field.name == other.name) = false :=
          beq_false_of_ne (Field.name_injective.ne hsame)
        simp [hname, hsame]

/-- An object with members for the given options shows these, and so it does with any other members
after them. -/
theorem shows_object (config : Config) (given : Field → Bool) {extra : List (String × Json)}
    (hnodup : (extra.map Prod.fst).Nodup)
    (hextra : ∀ field : Field, field.name ∉ extra.map Prod.fst) :
    config.Shows .json given (.object (config.membersOf given ++ extra)) := by
  have hnames : (config.membersOf given).map Prod.fst =
      (Field.all.filter given).map Field.name := by
    rw [membersOf, List.map_map]
    rfl
  refine ⟨_, rfl, ?_, fun field _ => ?_⟩
  · have hfields : (Field.all.filter given).Nodup := List.Nodup.filter _ (by decide)
    rw [List.map_append, hnames]
    refine List.Nodup.append (hfields.map Field.name_injective) hnodup ?_
    intro name hname hmem
    obtain ⟨field, -, rfl⟩ := List.mem_map.mp hname
    exact hextra field hmem
  · -- no other member is named like an option, so the first ones are found
    have hother : extra.lookup field.name = none := by
      rw [List.lookup_eq_none_iff]
      intro member hmem
      exact bne_iff_ne.mpr fun hname => hextra field (hname ▸ List.mem_map_of_mem hmem)
    have hmem : field ∈ Field.all.filter given ↔ given field = true := by
      simp [field.mem_all]
    rw [List.lookup_append, hother, Option.or_none, membersOf, lookup_map_name,
      if_congr hmem rfl rfl]
    cases hgiven : given field with
    | true => exact config.showsField_toJson field
    | false => rfl

theorem shows_membersOf (config : Config) (given : Field → Bool) :
    config.Shows .json given (.object (config.membersOf given)) := by
  have hnames : (([] : List (String × Json)).map Prod.fst).Nodup := List.nodup_nil
  have hshows := config.shows_object given hnames fun _ => List.not_mem_nil
  rwa [List.append_nil] at hshows

/-- A configuration is recovered from its JSON value. -/
theorem ofJson_toJson (config : Config) : ofJson config.toJson = .ok config :=
  (config.shows_membersOf fun _ => true).toLocated.decode .json

theorem wellWritten_toJson (config : Config) : config.toJson.WellWritten := by
  obtain ⟨bar, button, html, messages⟩ := config
  have hmessages := Json.wellWrittenItems_map CompletionMessage.wellWritten_toJson messages
  cases button <;> exact ⟨trivial, trivial, trivial, hmessages, trivial⟩

/-- Of a table with some of the options, in any order and among whatever else, these are read, and
the defaults of the others, be it a JSON object, a TOML table or the TOML text of one. A
configuration is recovered from what is written for it, also where the button is left out if
nothing is said about it. -/
theorem read_of_shows (config : Config) (given : Field → Bool) :
    (∀ value, config.Shows .json given value → ofJson value = .ok (config.restrict given)) ∧
      (∀ extra : List (String × Json), (extra.map Prod.fst).Nodup →
        (∀ field : Field, field.name ∉ extra.map Prod.fst) →
        ofJson (.object (config.membersOf given ++ extra)) = .ok (config.restrict given)) ∧
      (∀ root, config.Shows .datum given root →
        decode .toml root = .ok (config.restrict given)) ∧
      (∀ text root, Toml.read text = some root → config.Shows .datum given root →
        ofToml text = .ok (config.restrict given)) ∧
      ofJson config.toJson = .ok config ∧
      (Json.read config.toJson.pretty).map ofJson = some (.ok config) ∧
      decode .toml (Json.object (config.membersOf config.isSet)).toLocated = .ok config := by
  have hobject {value : Json} (hshows : config.Shows .json given value) :
      ofJson value = .ok (config.restrict given) :=
    hshows.toLocated.decode .json
  refine ⟨fun _ => hobject, ?_, fun _ hshows => hshows.decode .toml, ?_, config.ofJson_toJson, ?_,
    ?_⟩
  · intro extra hnodup hextra
    exact hobject (config.shows_object given hnodup hextra)
  · intro text root hread hshows
    rw [ofToml, hread]
    simp only [hshows.decode .toml]
  · rw [Json.read_of_denotes (Json.denotes_pretty config.wellWritten_toJson), Option.map_some,
      ofJson_toJson]
  · rw [(config.shows_membersOf config.isSet).toLocated.decode .toml, restrict_isSet]

/-- A configuration that differs from the default in every option. -/
def sample : Config := ⟨.top, some false, "done", [⟨"\x7bcorrectAnswers\x7d == 0", "none"⟩]⟩

/-- All options but the message at the end. -/
def sampleFields : Field → Bool := (· != .completedHtml)

/-- These options among others, as a JSON object. -/
def sampleJson : Json :=
  .object
    [("theme", .list [.null]),
      ("completed_html_on_condition", .list
        [.object [("note", .number "1.5"), ("html", .text "none"),
          ("expression", .text "\x7bcorrectAnswers\x7d == 0")]]),
      ("show_prev_button", .bool false), ("show_progress_bar", .text "top")]

/-- These options among others, as a TOML text. -/
def sampleToml : String :=
  "theme = [1]\nshow_progress_bar = 'top'\nshow_prev_button = false\n\n" ++
    "[[completed_html_on_condition]]\nnote = 1.5\n" ++
    "expression = '\x7bcorrectAnswers\x7d == 0'\nhtml = 'none'\n"

theorem read_sample :
    (sample.Shows .json sampleFields sampleJson ∧
      ofJson sampleJson = .ok { sample with completedHtml := defaultCompletedHtml }) ∧
    ofJson (.object (sample.membersOf sampleFields ++ [("theme", .null)])) =
      .ok { sample with completedHtml := defaultCompletedHtml } ∧
    ∃ root, Toml.read sampleToml = some root ∧ sample.Shows .datum sampleFields root ∧
      decode .toml root = .ok { sample with completedHtml := defaultCompletedHtml } ∧
      ofToml sampleToml = .ok { sample with completedHtml := defaultCompletedHtml } := by
  obtain ⟨hjson, hobject, htable, htext, -⟩ := read_of_shows sample sampleFields
  have hshows : sample.Shows .json sampleFields sampleJson := by decide +kernel
  have hroot : ∃ root ∈ Toml.read sampleToml, sample.Shows .datum sampleFields root := by
    decide +kernel
  obtain ⟨root, hread, hshown⟩ := hroot
  refine ⟨⟨hshows, hjson _ hshows⟩, hobject [("theme", .null)] (by decide) ?_, root, hread, hshown,
    htable root hshown, htext _ root hread hshown⟩
  intro field
  cases field <;> decide

end Config

end QuizCompiler.Quiz
