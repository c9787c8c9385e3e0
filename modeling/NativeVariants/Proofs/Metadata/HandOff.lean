import NativeVariants.CommandLine.Dispatch
import NativeVariants.Proofs.Machine.ReadBack
import NativeVariants.Proofs.Metadata.ChannelHistory
import NativeVariants.Proofs.Metadata.RecordText

set_option autoImplicit false

/-!
How facts get from one build to the next. The record that a channel commits is read back from its
file, and the variables of a channel are found again among those of an environment; either way a
later build gets the facts that were published and the same answers to its questions
(`handOff_lossless`).
-/

namespace NativeVariants.Metadata
open Json

/-- Two readers answer alike: with the same value, or with the same name that they miss. -/
inductive SameAnswer {α : Type} : Except Failure α → Except Failure α → Prop where
  | found (a : α) : SameAnswer (.ok a) (.ok a)
  | missing (key hint hint' : String) :
      SameAnswer (.error (.problem (.metadataKey key hint)))
        (.error (.problem (.metadataKey key hint')))

theorem SameAnswer.bind {α β : Type} {x y : Except Failure α} {f g : α → Except Failure β}
    (first : SameAnswer x y) (next : ∀ a, x = .ok a → SameAnswer (f a) (g a)) :
    SameAnswer (x >>= f) (y >>= g) := by
  cases first with
  | found a => exact next a rfl
  | missing key hint hint' => exact .missing key hint hint'

/-- Two records of the same package with the same facts, which answer every question alike. -/
structure Record.SameFacts (record other : Record) : Prop where
  package : record.package = other.package
  values : record.values.Perm other.values
  read : ∀ variant field, SameAnswer (record.read variant field) (other.read variant field)
  includeDir : SameAnswer record.includeDir other.includeDir
  artifacts : ∀ variant target?,
    SameAnswer (record.artifacts variant target?) (other.artifacts variant target?)

namespace Record

variable {values values' : Table String String} {package : String}
  {source? source'? : Option String}

theorem lookup?_textEntries (entries : List (String × String)) (key : String) :
    Datum.lookup? (textEntries entries) key = (entries.lookup key).map Datum.text := by
  induction entries with
  | nil => rfl
  | cons entry rest ih =>
      obtain ⟨k, v⟩ := entry
      have first : (Datum.text k).sameKey (.text key) = decide (k = key) := rfl
      unfold Datum.lookup? textEntries at ih ⊢
      rw [List.map_cons, List.find?_cons, first, Table.lookup_cons_eq_ite]
      by_cases here : k = key
      · rw [decide_eq_true here, if_pos here.symm]
        rfl
      · rw [decide_eq_false here, if_neg (Ne.symm here)]
        exact ih

theorem get_ofText (key : String) :
    (ofText values package source?).get key = (values.get? key).elim
      (.error (.problem (.metadataKey key (ofText values package source?).hint)))
      fun value => .ok (.text value) := by
  have looked : Datum.lookup? (ofText values package source?).values key =
      (values.get? key).map Datum.text := lookup?_textEntries values.entries key
  unfold get
  rw [looked]
  cases values.get? key with
  | none => rfl
  | some value => rfl

theorem read_ofText (variant field : String) :
    (ofText values package source?).read variant field =
      reported (variantKeyNamed package variant field) >>= (ofText values package source?).get := rfl

theorem exists_text_of_get {key : String} {value : Datum}
    (found : (ofText values package source?).get key = .ok value) : ∃ text, value = .text text := by
  rw [get_ofText] at found
  cases held : values.get? key with
  | none =>
      rw [held] at found
      cases found
  | some text =>
      rw [held] at found
      cases found
      exact ⟨text, rfl⟩

theorem exists_text_of_read {variant field : String} {value : Datum}
    (found : (ofText values package source?).read variant field = .ok value) :
    ∃ text, value = .text text := by
  rw [read_ofText] at found
  cases named : variantKeyNamed package variant field with
  | error problem =>
      rw [named] at found
      cases found
  | ok key =>
      rw [named] at found
      exact exists_text_of_get found

section SameValues

variable (same : values.entries.Perm values'.entries)
include same

theorem sameAnswer_get (key : String) :
    SameAnswer ((ofText values package source?).get key)
      ((ofText values' package source'?).get key) := by
  rw [get_ofText, get_ofText, Table.get?_eq_of_perm same]
  cases values'.get? key with
  | none => exact .missing key _ _
  | some value => exact .found (Datum.text value)

theorem sameAnswer_read (variant field : String) :
    SameAnswer ((ofText values package source?).read variant field)
      ((ofText values' package source'?).read variant field) := by
  rw [read_ofText, read_ofText]
  unfold variantKeyNamed
  cases Field.named? field with
  | none => exact .missing _ _ _
  | some f => exact sameAnswer_get same _

theorem sameAnswer_includeDir :
    SameAnswer (ofText values package source?).includeDir
      (ofText values' package source'?).includeDir := by
  have asked : SameAnswer ((ofText values package source?).get (includeKey package))
    ((ofText values' package source'?).get (includeKey package)) := sameAnswer_get same _
  refine asked.bind fun value found => ?_
  obtain ⟨text, rfl⟩ := exists_text_of_get found
  exact .found (Path.ofText text)

theorem sameAnswer_artifacts (variant : String) (target? : Option Target) :
    SameAnswer ((ofText values package source?).artifacts variant target?)
      ((ofText values' package source'?).artifacts variant target?) := by
  unfold artifacts
  refine (sameAnswer_read same _ _).bind fun basename _ => ?_
  refine (sameAnswer_includeDir same).bind fun includeDir _ => ?_
  refine (sameAnswer_read same _ _).bind fun libDir found => ?_
  obtain ⟨libText, rfl⟩ := exists_text_of_read found
  refine (sameAnswer_read same _ _).bind fun binDir found => ?_
  obtain ⟨binText, rfl⟩ := exists_text_of_read found
  exact .found _

theorem sameFacts_ofText :
    (ofText values package source?).SameFacts (ofText values' package source'?) where
  package := rfl
  values := same.map _
  read := sameAnswer_read same
  includeDir := sameAnswer_includeDir same
  artifacts := sameAnswer_artifacts same

end SameValues

end Record

/-! ### Through a file -/

theorem ofFile_render {channel : Channel} (named : channel.package ≠ "") (path : String) :
    Record.ofFile channel.render path none =
      .ok (.ofText channel.values.sorted channel.package (some path)) := by
  have ofPackage : Record.firstPresent [.text "", .text channel.package] defaultPackage =
      .text channel.package := by
    simp [Record.firstPresent, Datum.isPresent, named]
  unfold Record.ofFile
  rw [channel.read_render]
  have values : Datum.lookup? [(.text "package", .text channel.package),
      (.text "values", .map (textEntries channel.values.sorted.entries))] "values" =
        some (.map (textEntries channel.values.sorted.entries)) := rfl
  have package : Datum.lookup? [(.text "package", .text channel.package),
      (.text "values", .map (textEntries channel.values.sorted.entries))] "package" =
        some (.text channel.package) := rfl
  have known : Record.ofText channel.values.sorted channel.package (some path) =
      ⟨.text channel.package, textEntries channel.values.sorted.entries, some path⟩ := rfl
  simp only [values, package, Option.getD_some, Option.getD_none, ofPackage]
  rw [known]
  cases channel.values.sorted.entries with
  | nil => rfl
  | cons entry more => rfl

theorem offers_of_commit {channel : Channel} {p : Path} {m m' : Machine}
    (committed : runFrom (commit channel p) m = (.ok (), m')) :
    m'.Offers p (.text channel.render) := by
  -- The file is written whole, and the note that follows leaves it there.
  unfold commit at committed
  obtain ⟨_, m₁, written, noted⟩ := runFrom_bind_eq_ok.mp committed
  obtain ⟨events, same⟩ := Run.runFrom_note .channel _ m₁
  rw [same] at noted
  cases noted
  have before := Run.offers_of_writeWhole written
  exact ⟨⟨before.nameable, before.located⟩, before.held⟩

theorem workingDir_of_commit {channel : Channel} {p : Path} {m m' : Machine}
    (committed : runFrom (commit channel p) m = (.ok (), m')) : m'.workingDir = m.workingDir := by
  unfold commit at committed
  obtain ⟨_, m₁, written, noted⟩ := runFrom_bind_eq_ok.mp committed
  obtain ⟨events, same⟩ := Run.runFrom_note .channel _ m₁
  rw [same] at noted
  cases noted
  exact (Run.entry?_of_writeWhole written).1

theorem runFrom_readRecord_of_offers {channel : Channel} {p : Path} {m : Machine}
    (named : channel.package ≠ "") (offers : m.Offers p (.text channel.render)) :
    runFrom (readRecord p none) m =
      (.ok (.ofText channel.values.sorted channel.package (some p.display)), m) := by
  have text := Run.runFrom_readText_of_offers offers
  rw [Run.readLines_of_not_mem channel.return_not_mem_render, String.ofList_toList] at text
  unfold readRecord
  rw [runFrom_bind_of_ok (Run.runFrom_isFile_of_offers offers), if_pos rfl,
    runFrom_bind_of_ok text, ofFile_render named]
  rfl

theorem runFrom_readRecord_of_commit {channel : Channel} {p : Path} {m m' : Machine}
    (named : channel.package ≠ "") (committed : runFrom (commit channel p) m = (.ok (), m')) :
    runFrom (readRecord p none) m' =
      (.ok (.ofText channel.values.sorted channel.package (some p.display)), m') :=
  runFrom_readRecord_of_offers named (offers_of_commit committed)

/-! ### Through the environment -/

def Channel.OwnNames (channel : Channel) : Prop :=
  ∀ key value, channel.values.get? key = some value →
    (keyLead channel.package).isPrefixOf key = true

theorem keyLead_isPrefixOf_of_mem_items {package : String} {call : Publication}
    {entry : String × String} (inside : entry ∈ call.items package) :
    (keyLead package).isPrefixOf entry.1 = true := by
  cases call with
  | included includeDir =>
      obtain rfl := List.mem_singleton.mp inside
      exact keyLead_isPrefixOf_includeKey package
  | variant artifacts =>
      have named : entry.1 ∈ Field.all.map (variantKey package artifacts.variant) :=
        List.mem_map_of_mem inside
      obtain ⟨f, _, same⟩ := List.mem_map.mp named
      rw [← same]
      exact keyLead_isPrefixOf_variantKey package artifacts.variant f

theorem Channel.OwnNames.publish {channel channel' : Channel} {call : Publication}
    (own : channel.OwnNames) (published : channel.publish call = .ok channel') :
    channel'.OwnNames := by
  have takes := takes_of_publish published
  intro key value held
  rw [takes.package]
  by_cases set : key ∈ (call.items channel.package).map (·.1)
  · obtain ⟨entry, inside, rfl⟩ := List.mem_map.mp set
    exact keyLead_isPrefixOf_of_mem_items inside
  · rw [takes.kept key set] at held
    exact own key value held

theorem Channel.ownNames_afterAttempts (package : String) (calls : List Publication) :
    (afterAttempts package calls).OwnNames := by
  refine afterAttempts_induction ?_ (fun _ _ _ own published => own.publish published) calls
  intro key value held
  cases held

theorem ofEnviron_overlaid {channel : Channel} {environ : Environ} (own : channel.OwnNames)
    (foreign : ∀ key ∈ environ.keys, (keyLead channel.package).isPrefixOf key = false) :
    Record.ofEnviron (environ.setAll channel.toEnviron.entries) channel.package =
      .ofText channel.values.sorted channel.package (some "environment") := by
  have ownSorted : ∀ key ∈ channel.values.sorted.keys,
      (keyLead channel.package).isPrefixOf key = true := by
    intro key inside
    obtain ⟨⟨_, value⟩, isEntry, rfl⟩ := List.mem_map.mp inside
    exact own _ value (Table.get?_eq_some_of_mem ((Table.sorted_perm _).mem_iff.mp isEntry))
  exact congrArg (Record.ofText · channel.package _) (Table.filter_setAll_eq foreign ownSorted)

/-- Whatever calls were made, the record that a channel commits is read back with its package and
its facts, and so are its variables among others that do not belong to the package. -/
theorem handOff_lossless (package : String) (named : package ≠ "") (calls : List Publication)
    (source? : Option String) :
    let channel := Channel.afterAttempts package calls
    let direct := Record.ofText channel.values package source?
    (∀ p m m', runFrom (commit channel p) m = (.ok (), m') →
      ∃ record, runFrom (readRecord p none) m' = (.ok record, m') ∧ record.SameFacts direct) ∧
    ∀ environ : Environ,
      (∀ key ∈ environ.keys, (packageLead package ++ "_").isPrefixOf key = false) →
      (Record.ofEnviron (environ.setAll channel.toEnviron.entries) package).SameFacts direct := by
  intro channel direct
  have ofPackage : channel.package = package := Channel.package_afterAttempts package calls
  have sameFacts : ∀ source?,
      (Record.ofText channel.values.sorted package source?).SameFacts direct := fun _ =>
    Record.sameFacts_ofText (Table.sorted_perm _)
  constructor
  · intro p m m' committed
    rw [← ofPackage] at named
    refine ⟨_, runFrom_readRecord_of_commit named committed, ?_⟩
    rw [ofPackage]
    exact sameFacts _
  · intro environ foreign
    have own : channel.OwnNames := Channel.ownNames_afterAttempts package calls
    rw [← ofPackage] at foreign
    have overlaid := ofEnviron_overlaid own foreign
    rw [ofPackage] at overlaid
    rw [overlaid]
    exact sameFacts _

/-- A channel after three calls, the last of which fails. -/
def threeCalls : List Publication :=
  [.included (.ofText "/src/include"),
    .variant ⟨"cuda", "ggml-cuda", .ofText "/inc", .ofText "/lib", .ofText "/bin", []⟩,
    .included (.ofText "/elsewhere")]

def bareMachine : Machine where
  host := ⟨"x86_64", "Linux", none⟩
  environ := .ofList [("PATH", "/bin"), ("DEP_OTHER_INCLUDE", "/other")]
  workingDir := []
  files := .empty
  units := []
  outcomes := []
  isVerbose := false
  events := []

theorem handOff_bareMachine :
    "ggml" ≠ "" ∧
    (∃ m' record, runFrom (commit (.afterAttempts "ggml" threeCalls) (.ofText "/out/facts.json"))
        bareMachine = (.ok (), m') ∧
      runFrom (readRecord (.ofText "/out/facts.json") none) m' = (.ok record, m') ∧
      record.SameFacts
        (.ofText (Channel.afterAttempts "ggml" threeCalls).values "ggml" none)) ∧
    (∀ key ∈ bareMachine.environ.keys, (packageLead "ggml" ++ "_").isPrefixOf key = false) ∧
    (Record.ofEnviron (bareMachine.environ.setAll
      (Channel.afterAttempts "ggml" threeCalls).toEnviron.entries) "ggml").SameFacts
        (.ofText (Channel.afterAttempts "ggml" threeCalls).values "ggml" none) := by
  have named : "ggml" ≠ "" := by decide
  have foreign : ∀ key ∈ bareMachine.environ.keys,
      (packageLead "ggml" ++ "_").isPrefixOf key = false := by
    decide +kernel
  obtain ⟨⟨⟩, m', committed⟩ := exists_of_isOk (s := bareMachine)
    (x := commit (.afterAttempts "ggml" threeCalls) (.ofText "/out/facts.json"))
    (by decide +kernel)
  obtain ⟨throughFile, throughEnviron⟩ := handOff_lossless "ggml" named threeCalls none
  obtain ⟨record, read, sameFacts⟩ := throughFile _ _ _ committed
  exact ⟨named, ⟨m', record, committed, read, sameFacts⟩, foreign, throughEnviron _ foreign⟩

end NativeVariants.Metadata
