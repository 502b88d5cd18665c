/-
# Configurations come back from their texts

A configuration is written with the canonical names of its modalities, and `from_json_str`
registers those names anew: each is checked, brought into canonical form and dropped if it is there
already.  So a text comes back as the same configuration only where the names are canonical and
differ, and that is what every configuration has that calls can build (`Config.reachable_run`),
loads of any text whatever among them (`Config.reachable_ofJson`).

Of any other list of names, loading keeps the canonical forms in the order they are first seen
(`Registry.ofNames_eq_ok`), or it fails on the first name that is not an identifier
(`Registry.ofNames_eq_error`).

Both halves hold of every text of the value, whatever blanks and escapes it is written with; only
the names are looked at.  The reading of a text is settled elsewhere for objects in general
(`readMembers_layout`): members in any order and any layout are read as they are put into the
fields, one after the other.  What this module adds is the meaning of a member (`ConfigFields.put`)
and the proof that reading one is putting it (`puts_setting`).

The converse, that what was read from any text is reachable, can not go through layouts, since the
text need not be a JSON text in full before something is read.  It is an invariant of the reader:
what reading one member preserves, reading all of them preserves (`readMembers_preserves`), and the
only way a registry comes into the fields is through a list of names, which registers each of them.
-/
import HexadQuery.Config.Json
import HexadQuery.Proofs.JsonLayouts
import HexadQuery.Proofs.RegistryRuns

namespace HexadQuery

/-! ## 1. The registry of a list of names

`try_from` goes through the names and registers each.  Of identifiers this is removing repetitions
from the list of their canonical forms; at the first name that is none it stops. -/

/-- A list without repetitions keeps all its members. -/
theorem eraseDups_of_nodup {α : Type} [DecidableEq α] : ∀ {as : List α}, as.Nodup →
    as.eraseDups = as
  | [], _ => rfl
  | a :: as, h => by
    obtain ⟨ha, has⟩ := List.nodup_cons.mp h
    have hfilter : as.filter (fun b => !b == a) = as := by
      refine List.filter_eq_self.mpr fun b hb => ?_
      have hne : b ≠ a := by
        rintro rfl
        exact ha hb
      simpa using hne
    rw [List.eraseDups_cons, hfilter, eraseDups_of_nodup has]

namespace Registry

/-- An identifier is added behind the others, unless its modality is there already. -/
theorem withModality_of_isIdentifier {registry : Registry} {name : String}
    (h : isIdentifier name = true) :
    registry.withModality name =
      if Modality.ofName name ∈ registry.modalities then .ok registry
      else .ok ⟨registry.modalities ++ [Modality.ofName name]⟩ := by
  rw [withModality, register_eq, if_pos h]
  split <;> rfl

/-- Any other name is refused as it was given. -/
theorem withModality_of_not_isIdentifier (registry : Registry) {name : String}
    (h : ¬ isIdentifier name = true) : registry.withModality name = .error ⟨name⟩ := by
  rw [withModality, register_eq, if_neg h]
  rfl

/-- **Identifiers are added in the order they are first seen.** -/
theorem withModalities_eq_ok : ∀ {names : List String} {registry : Registry},
    registry.modalities.Nodup → (∀ name ∈ names, isIdentifier name = true) →
    registry.withModalities names =
      .ok ⟨(registry.modalities ++ names.map Modality.ofName).eraseDups⟩
  | [], registry, hnodup, _ => by
    rw [List.map_nil, List.append_nil, eraseDups_of_nodup hnodup]
    rfl
  | name :: names, registry, hnodup, h => by
    obtain ⟨hname, hnames⟩ := List.forall_mem_cons.mp h
    rw [withModalities, List.foldlM_cons, withModality_of_isIdentifier hname, List.map_cons]
    by_cases hmem : Modality.ofName name ∈ registry.modalities
    · rw [if_pos hmem]
      refine (withModalities_eq_ok hnodup hnames).trans ?_
      rw [List.eraseDups_append, List.eraseDups_append, List.cons_removeAll]
      simp [hmem]
    · rw [if_neg hmem]
      have hnext : (registry.modalities ++ [Modality.ofName name]).Nodup :=
        List.nodup_append.mpr ⟨hnodup, List.nodup_singleton _, by
          rintro m hm other hother rfl
          exact hmem (List.mem_singleton.mp hother ▸ hm)⟩
      refine (withModalities_eq_ok hnext hnames).trans ?_
      rw [List.append_assoc, List.singleton_append]

/-- The names ahead of the first that is no identifier do not matter. -/
theorem withModalities_eq_error {name : String} (hname : ¬ isIdentifier name = true)
    (back : List String) : ∀ {front : List String} {registry : Registry},
    (∀ n ∈ front, isIdentifier n = true) →
    registry.withModalities (front ++ name :: back) = .error ⟨name⟩
  | [], registry, _ => by
    rw [List.nil_append, withModalities, List.foldlM_cons,
      withModality_of_not_isIdentifier registry hname]
    rfl
  | n :: front, registry, h => by
    obtain ⟨hn, hfront⟩ := List.forall_mem_cons.mp h
    rw [List.cons_append, withModalities, List.foldlM_cons, withModality_of_isIdentifier hn]
    split
    · exact withModalities_eq_error hname back hfront
    · exact withModalities_eq_error hname back hfront

/-- **Identifiers make the registry of their canonical forms**, in the order they are first seen.
-/
theorem ofNames_eq_ok {names : List String} (h : ∀ name ∈ names, isIdentifier name = true) :
    ofNames names = .ok ⟨(names.map Modality.ofName).eraseDups⟩ :=
  withModalities_eq_ok List.nodup_nil h

/-- **The first name that is no identifier is the one that is reported.**  Names are added from
the front, and the first fault ends it; those ahead of it add up to some registry that nothing is
seen of. -/
theorem ofNames_eq_error {front back : List String} {name : String}
    (hfront : ∀ n ∈ front, isIdentifier n = true) (hname : ¬ isIdentifier name = true) :
    ofNames (front ++ name :: back) = .error ⟨name⟩ :=
  withModalities_eq_error hname back hfront

/-- **A reachable registry is that of its own names.**  No two names are spellings of each other,
and each is in its canonical form, so adding them one by one skips none and changes none. -/
theorem Reachable.ofNames_names {registry : Registry} (h : registry.Reachable) :
    ofNames registry.names = .ok registry := by
  have hnames : ∀ name ∈ registry.names, isIdentifier name = true := by
    intro name hname
    obtain ⟨m, hm, rfl⟩ := List.mem_map.mp hname
    exact (h.isCanonical m hm).isIdentifier
  have hmap : registry.names.map Modality.ofName = registry.modalities := by
    rw [names, List.map_map]
    exact (List.map_congr_left fun m hm => (h.isCanonical m hm).ofName_name).trans (List.map_id _)
  rw [ofNames_eq_ok hnames, hmap, eraseDups_of_nodup h.nodup]

end Registry

/-! ## 2. Settings

A configuration is an object with two members at most, and `Setting` is a member that makes sense.
`Puts` is the general statement that a reader of members takes any text of such a member and
changes the fields as `put` says. -/

open Json

/-- A member of a configuration's object. -/
inductive Setting where
  | mode (choice : SelectMode)
  | modalities (names : List String)

/-- The key and the value of a setting. -/
def Setting.entry : Setting → String × Json
  | .mode choice => ("select_mode", .str choice.name)
  | .modalities names => ("modalities", .arr (names.map .str))

/-- The settings that a configuration is written with. -/
def Config.settings (config : Config) : List Setting :=
  [.mode config.mode, .modalities config.registry.names]

/-- What a configuration is written as is the object of its settings. -/
theorem Config.toJson_eq (config : Config) :
    config.toJson = .obj (config.settings.map Setting.entry) := rfl

namespace ConfigFields

/-- The fields with one more setting; each is given once at most. -/
def put (fields : ConfigFields) : Setting → Except JsonFault ConfigFields
  | .mode choice =>
    if fields.mode.isSome then .error (.duplicateField "select_mode")
    else .ok { fields with mode := some choice }
  | .modalities names =>
    if fields.registry.isSome then .error (.duplicateField "modalities")
    else
      match Registry.ofNames names with
      | .ok registry => .ok { fields with registry := some registry }
      | .error refused => .error (.invalidName refused)

end ConfigFields

/-- The name of a mode is read as the mode. -/
theorem readVariant_name (mode : SelectMode) : readVariant mode.name = .ok mode := by
  cases mode <;> rfl

/-- A mode is read in any text of its name, also with escapes in it. -/
theorem readMode_layout {gap v : List Char} {mode : SelectMode} (hgap : Gap gap)
    (h : Layout (.str mode.name) v) (rest : List Char) :
    readMode (gap ++ (v ++ rest)) = .ok (mode, rest) := by
  obtain ⟨body, rfl, hbody⟩ := h.str_eq
  have hname : readModeName ('"' :: (body ++ '"' :: rest)) = .ok (mode, rest) := by
    simp only [readModeName, skipSpace_cons (c := '"') rfl, stringBody_encodes hbody, orMalformed,
      bind, Except.bind, String.ofList_toList, readVariant_name]
    rfl
  simp only [readMode, List.cons_append, List.append_assoc, List.nil_append,
    skipSpace_gap_cons hgap (c := '"') rfl]
  exact hname

/-- A list of names is read in any text of it, and the names are registered then. -/
theorem readRegistry_layout {gap v : List Char} {names : List String} (hgap : Gap gap)
    (h : Layout (.arr (names.map .str)) v) (rest : List Char) :
    readRegistry (gap ++ (v ++ rest)) =
      match Registry.ofNames names with
      | .ok registry => .ok (registry, rest)
      | .error refused => .error (.invalidName refused) := by
  simp only [readRegistry, readStrings_layout hgap h, bind, Except.bind]
  rfl

/-- **A setting is read as it is put**, in any text of its value. -/
theorem puts_setting (setting : Setting) :
    Puts ConfigFields.member Setting.entry ConfigFields.put setting := by
  intro fields h i v rest hh hi hv _
  cases setting with
  | mode choice =>
    simp only [Setting.entry, ConfigFields.member, if_true, readField, ConfigFields.put]
    split
    · rfl
    · simp only [bind, Except.bind, pure, Except.pure, readColon_gap hh, readMode_layout hi hv]
      rfl
  | modalities names =>
    simp only [Setting.entry, ConfigFields.member, if_true, readField, ConfigFields.put]
    rw [if_neg (by decide)]
    split
    · rfl
    · simp only [bind, Except.bind, pure, Except.pure, readColon_gap hh, readRegistry_layout hi hv]
      cases Registry.ofNames names <;> rfl

/-- **The object of some settings is read as they are put**, one after the other. -/
theorem Config.ofJson_settings {settings : List Setting} (hne : settings ≠ []) {text : String}
    (h : TextOf (.obj (settings.map Setting.entry)) text) :
    Config.ofJson text = (settings.foldlM ConfigFields.put {}).map ConfigFields.config := by
  obtain @⟨front, cs, back, hfront, hlayout, hback⟩ := h
  obtain ⟨body, rfl, hbody⟩ : ∃ body, cs = '\x7b' :: (body ++ ['\x7d']) ∧
      LayoutMembers (settings.map Setting.entry) body := by
    generalize hmembers : settings.map Setting.entry = members at hlayout
    cases hlayout with
    | noMembers => exact absurd (List.map_eq_nil_iff.mp hmembers) hne
    | obj hbody => exact ⟨_, rfl, hbody⟩
  obtain ⟨gap, hgap, hread⟩ := readMembers_layout hbody (fun m _ => puts_setting m) .first {} back
  rw [List.nil_append] at hread
  simp only [Config.ofJson, readText, String.toList_ofList, readRecord, List.cons_append,
    List.append_assoc, List.nil_append, skipSpace_gap_cons hfront (c := '\x7b') rfl,
    ConfigFields.ofObject, hread]
  cases settings.foldlM ConfigFields.put {} with
  | error fault => rfl
  | ok fields =>
    have hend : (skipSpace back).isEmpty = true := by
      rw [← List.append_nil back, skipSpace_gap hback]
      rfl
    simp only [Except.map, bind, Except.bind, pure, Except.pure, closeObject_gap hgap, hend,
      if_true]

/-! ## 3. What a loaded configuration holds

The invariant of the reader, for any text whatever.  Every step of a reader that succeeded is taken
apart by `bind_eq_ok`, down to the one that read the names. -/

namespace Json

variable {σ α β : Type}

/-- What a success of two steps comes from. -/
theorem bind_eq_ok {x : Except JsonFault α} {next : α → Except JsonFault β} {b : β} :
    x >>= next = .ok b ↔ ∃ a, x = .ok a ∧ next a = .ok b := by
  cases x with
  | error fault => simp [bind, Except.bind]
  | ok a => simp [bind, Except.bind]

/-- A refusal is no success. -/
theorem refuse_ne_ok {expected : String} {cs rest : List Char} {a : α} :
    refuse expected cs ≠ .ok (a, rest) := by
  intro h
  obtain ⟨_, -, h⟩ := bind_eq_ok.mp h
  cases h

/-- The value of a field that is read comes from its reader. -/
theorem readField_eq_ok {name : String} {given : Option α} {read : Reader α} {cs rest : List Char}
    {a : α} (h : readField name given read cs = .ok (a, rest)) : ∃ ds, read ds = .ok (a, rest) := by
  rw [readField] at h
  split at h
  · cases h
  · obtain ⟨ds, -, h⟩ := bind_eq_ok.mp h
    exact ⟨ds, h⟩

/-- A record that is read comes from one of its two forms. -/
theorem readText_readRecord_eq_ok {expected : String} {object array : Reader α} {text : String}
    {a : α} (h : readText (readRecord expected object array) text = .ok a) :
    ∃ cs rest, object cs = .ok (a, rest) ∨ array cs = .ok (a, rest) := by
  obtain ⟨⟨b, rest⟩, hread, h⟩ := bind_eq_ok.mp h
  obtain rfl : b = a := by
    dsimp only at h
    split at h
    · exact Except.ok.inj h
    · cases h
  rw [readRecord] at hread
  split at hread
  · exact ⟨_, rest, Or.inl hread⟩
  · exact ⟨_, rest, Or.inr hread⟩
  · exact absurd hread refuse_ne_ok

/-- **What reading one member preserves, reading all of them preserves.**  The induction is that
of the reading, on the text that is left; a member that is refused leaves nothing to be said. -/
theorem readMembers_preserves {member : σ → String → Reader σ} {P : σ → Prop}
    (hstep : ∀ {state next : σ} {key : String} {cs rest : List Char}, P state →
      member state key cs = .ok (next, rest) → P next) (cs : List Char) :
    ∀ {first : Bool} {state last : σ} {rest : List Char}, P state →
      readMembers member first state cs = .ok (last, rest) → P last := by
  -- The text gets shorter with each member; nothing else does.
  induction hlength : cs.length using Nat.strongRecOn generalizing cs with
  | ind n ih =>
    intro first state last rest hstate h
    rw [readMembers] at h
    obtain ⟨found, -, h⟩ := bind_eq_ok.mp h
    cases found with
    | none =>
      obtain ⟨rfl, -⟩ := Prod.mk.inj (Except.ok.inj h)
      exact hstate
    | some found =>
      obtain ⟨⟨next, behind⟩, hmember, h⟩ := bind_eq_ok.mp h
      dsimp only at h
      split at h
      · next hshorter => exact ih _ (hlength ▸ hshorter) behind rfl (hstep hstate hmember) h
      · cases h

end Json

/-- A registry that is read is that of a list of names. -/
theorem reachable_of_readRegistry {cs rest : List Char} {registry : Registry}
    (h : readRegistry cs = .ok (registry, rest)) : registry.Reachable := by
  obtain ⟨⟨names, behind⟩, -, h⟩ := bind_eq_ok.mp h
  dsimp only at h
  split at h
  · next hnames =>
    obtain ⟨rfl, -⟩ := Prod.mk.inj (Except.ok.inj h)
    exact Registry.reachable_ofNames hnames
  · cases h

namespace ConfigFields

/-- The registry that has been read, if any, is reachable. -/
def Reachable (fields : ConfigFields) : Prop :=
  ∀ registry, fields.registry = some registry → registry.Reachable

/-- Nothing has been read yet. -/
theorem reachable_start : Reachable {} := by
  intro _ h
  cases h

/-- What is made of the fields is reachable: the registry that was read, or the default one. -/
theorem Reachable.config {fields : ConfigFields} (h : fields.Reachable) :
    fields.config.registry.Reachable := by
  cases hregistry : fields.registry with
  | none =>
    rw [ConfigFields.config, hregistry]
    exact .builtin
  | some registry =>
    rw [ConfigFields.config, hregistry]
    exact h registry hregistry

/-- One member keeps the fields reachable. -/
theorem Reachable.member {fields next : ConfigFields} {key : String} {cs rest : List Char}
    (h : fields.Reachable) (hread : member fields key cs = .ok (next, rest)) :
    next.Reachable := by
  rw [ConfigFields.member] at hread
  split at hread
  · obtain ⟨_, -, hread⟩ := bind_eq_ok.mp hread
    obtain ⟨rfl, -⟩ := Prod.mk.inj (Except.ok.inj hread)
    exact h
  · split at hread
    · obtain ⟨_, hfield, hread⟩ := bind_eq_ok.mp hread
      obtain ⟨rfl, -⟩ := Prod.mk.inj (Except.ok.inj hread)
      obtain ⟨_, hregistry⟩ := readField_eq_ok hfield
      rintro _ ⟨⟩
      exact reachable_of_readRegistry hregistry
    · obtain ⟨_, -, hread⟩ := bind_eq_ok.mp hread
      obtain ⟨rfl, -⟩ := Prod.mk.inj (Except.ok.inj hread)
      exact h

/-- The object form, by its members. -/
theorem reachable_ofObject {cs rest : List Char} {config : Config}
    (h : ofObject cs = .ok (config, rest)) : config.registry.Reachable := by
  obtain ⟨⟨fields, behind⟩, hread, h⟩ := bind_eq_ok.mp h
  obtain ⟨_, -, h⟩ := bind_eq_ok.mp h
  obtain ⟨rfl, -⟩ := Prod.mk.inj (Except.ok.inj h)
  have hfields : fields.Reachable :=
    readMembers_preserves (fun hstate hmember => hstate.member hmember) cs reachable_start hread
  exact hfields.config

/-- The array form has the two values in their order. -/
theorem reachable_ofArray {cs rest : List Char} {config : Config}
    (h : ofArray cs = .ok (config, rest)) : config.registry.Reachable := by
  obtain ⟨found, -, h⟩ := bind_eq_ok.mp h
  cases found with
  | none =>
    obtain ⟨_, -, h⟩ := bind_eq_ok.mp h
    obtain ⟨rfl, -⟩ := Prod.mk.inj (Except.ok.inj h)
    exact .builtin
  | some ds =>
    obtain ⟨⟨mode, behind⟩, -, h⟩ := bind_eq_ok.mp h
    obtain ⟨found, -, h⟩ := bind_eq_ok.mp h
    cases found with
    | none =>
      obtain ⟨_, -, h⟩ := bind_eq_ok.mp h
      obtain ⟨rfl, -⟩ := Prod.mk.inj (Except.ok.inj h)
      exact .builtin
    | some es =>
      obtain ⟨_, hregistry, h⟩ := bind_eq_ok.mp h
      obtain ⟨_, -, h⟩ := bind_eq_ok.mp h
      obtain ⟨rfl, -⟩ := Prod.mk.inj (Except.ok.inj h)
      exact reachable_of_readRegistry hregistry

end ConfigFields

namespace Config

/-- **Whatever text a configuration is read from, its registry is reachable.** -/
theorem reachable_ofJson {text : String} {config : Config} (h : Config.ofJson text = .ok config) :
    config.registry.Reachable := by
  obtain ⟨cs, rest, hobject | harray⟩ := readText_readRecord_eq_ok h
  · exact ConfigFields.reachable_ofObject hobject
  · exact ConfigFields.reachable_ofArray harray

/-! ## 4. Calls and runs

What can be done with a configuration, call by call.  A call that fails leaves nothing new, so the
configuration it was made on is what there still is. -/

/-- A call that makes a configuration from another one, or from a text. -/
inductive Call where
  | withModality (name : String)
  | withMode (mode : SelectMode)
  | load (text : String)

/-- The configuration that a call leaves.  One that fails leaves the configuration as it was. -/
def after (config : Config) : Call → Config
  | .withModality name => (config.withModality name).toOption.getD config
  | .withMode mode => config.withMode mode
  | .load text => (Config.load text).toOption.getD config

/-- The configuration that a sequence of calls leaves. -/
def run (config : Config) (calls : List Call) : Config := calls.foldl after config

/-- **A call leads from a reachable registry to a reachable one**, whether it fails or not. -/
theorem reachable_after {config : Config} (h : config.registry.Reachable) (call : Call) :
    (config.after call).registry.Reachable := by
  cases call with
  | withModality name =>
    rw [after, Config.withModality]
    cases hnext : config.registry.withModality name with
    | error refused => exact h
    | ok next => exact h.withModality hnext
  | withMode mode => exact h
  | load text =>
    rw [after, Config.load]
    cases hload : Config.ofJson text with
    | error fault => exact h
    | ok loaded => exact reachable_ofJson hload

/-- **A run of calls leads from a reachable registry to a reachable one.**  So a configuration
that was reached has a reachable registry, and nothing more about the calls is needed. -/
theorem reachable_run : ∀ (calls : List Call) {config : Config}, config.registry.Reachable →
    (config.run calls).registry.Reachable
  | [], _, h => h
  | call :: calls, _, h => reachable_run calls (reachable_after h call)

/-! ## 5. Texts and configurations

The two laws.  The first is about reachable configurations and all their texts, the second about a
list of names alone and all texts of that. -/

/-- **A configuration comes back from every text of it**, if its registry is reachable.  The
object has the mode and the names, in whatever order its text has them, and the names make the
same registry again. -/
theorem load_toJson {config : Config} (h : config.registry.Reachable) {text : String}
    (htext : TextOf config.toJson text) : Config.load text = .ok config := by
  rw [toJson_eq] at htext
  rw [Config.load, ofJson_settings (by simp [settings]) htext]
  simp [settings, ConfigFields.put, h.ofNames_names, bind, Except.bind, Except.map, pure,
    Except.pure, ConfigFields.config]

/-- The object of a list of names alone is loaded as the registry of the names. -/
theorem load_names {names : List String} {text : String}
    (htext : TextOf (.obj [("modalities", .arr (names.map .str))]) text) :
    Config.load text =
      match Registry.ofNames names with
      | .ok registry => .ok { Config.lenient with registry }
      | .error refused => .error (.invalidJson (.invalidName refused)) := by
  have hsettings : TextOf (.obj ([Setting.modalities names].map Setting.entry)) text := htext
  rw [Config.load, ofJson_settings (by simp) hsettings]
  cases hnames : Registry.ofNames names with
  | error refused =>
    simp [ConfigFields.put, hnames, bind, Except.bind, Except.map]
  | ok registry =>
    simp [ConfigFields.put, hnames, bind, Except.bind, Except.map, pure, Except.pure,
      ConfigFields.config]

section Names

variable {names : List String} {text : String}

/-- Names that match the pattern are loaded as their canonical forms. -/
theorem load_names_eq_ok (htext : TextOf (.obj [("modalities", .arr (names.map .str))]) text)
    (h : ∀ name ∈ names, MatchesPattern name) :
    Config.load text =
      .ok { Config.lenient with registry := ⟨(names.map Modality.ofName).eraseDups⟩ } := by
  rw [load_names htext,
    Registry.ofNames_eq_ok fun name hname => (isIdentifier_iff name).mpr (h name hname)]

/-- The first name that does not match the pattern is reported. -/
theorem load_names_eq_error (htext : TextOf (.obj [("modalities", .arr (names.map .str))]) text)
    {front back : List String} {name : String} (hnames : names = front ++ name :: back)
    (hfront : ∀ n ∈ front, MatchesPattern n) (hname : ¬ MatchesPattern name) :
    Config.load text = .error (.invalidJson (.invalidName ⟨name⟩)) := by
  subst hnames
  rw [load_names htext,
    Registry.ofNames_eq_error (fun n hn => (isIdentifier_iff n).mpr (hfront n hn))
      (mt (isIdentifier_iff name).mp hname)]

/-- So a list of names fails to load exactly if it holds a name that does not match. -/
theorem load_names_fails_iff (htext : TextOf (.obj [("modalities", .arr (names.map .str))]) text) :
    (∃ e, Config.load text = .error e) ↔ ∃ name ∈ names, ¬ MatchesPattern name := by
  constructor
  · rintro ⟨e, he⟩
    by_contra hnone
    rw [load_names_eq_ok htext (by simpa using hnone)] at he
    cases he
  · rintro ⟨bad, hmem, hbad⟩
    rw [← isIdentifier_iff] at hbad
    have hsome : (names.find? fun name => !isIdentifier name).isSome = true :=
      List.find?_isSome.mpr ⟨bad, hmem, by simpa using hbad⟩
    obtain ⟨name, hfind⟩ := Option.isSome_iff_exists.mp hsome
    obtain ⟨hname, front, back, hnames, hfront⟩ := List.find?_eq_some_iff_append.mp hfind
    refine ⟨_, load_names_eq_error htext hnames (fun n hn => ?_) ?_⟩
    · exact (isIdentifier_iff n).mp (by simpa using hfront n hn)
    · exact mt (isIdentifier_iff name).mpr (by simpa using hname)

end Names

end Config

/-- **Texts and configurations belong together.**  Whatever calls have been made on one of the three
configurations there are to start from, loads of any text among them, the configuration comes back
from its compact text and from every other text of it.  The object of a list of names alone is
refused exactly if a name does not match the pattern, and the first of them is reported; otherwise
the modalities are the canonical forms of the names in the order they are first seen, without
repetition, and the mode is the default one. -/
theorem config_texts {start : Config} (hstart : start ∈ [({} : Config), .strict, .lenient])
    (calls : List Config.Call) :
    Config.load (start.run calls).toJson.compact = .ok (start.run calls) ∧
    (∀ text, TextOf (start.run calls).toJson text → Config.load text = .ok (start.run calls)) ∧
    ∀ (names : List String) (text : String),
      TextOf (.obj [("modalities", .arr (names.map .str))]) text →
      ((∃ e, Config.load text = .error e) ↔ ∃ name ∈ names, ¬ MatchesPattern name) ∧
      (∀ front name back, names = front ++ name :: back → (∀ n ∈ front, MatchesPattern n) →
        ¬ MatchesPattern name → Config.load text = .error (.invalidJson (.invalidName ⟨name⟩))) ∧
      ((∀ name ∈ names, MatchesPattern name) →
        Config.load text =
          .ok { Config.lenient with registry := ⟨(names.map Modality.ofName).eraseDups⟩ }) := by
  have hreachable : start.registry.Reachable := by
    simp only [List.mem_cons, List.not_mem_nil, or_false] at hstart
    rcases hstart with rfl | rfl | rfl
    all_goals exact .builtin
  have hload : ∀ text, TextOf (start.run calls).toJson text →
      Config.load text = .ok (start.run calls) :=
    fun text => Config.load_toJson (Config.reachable_run calls hreachable)
  refine ⟨hload _ (textOf_compact _), hload, ?_⟩
  intro names text htext
  exact ⟨Config.load_names_fails_iff htext,
    fun front name back => Config.load_names_eq_error htext, Config.load_names_eq_ok htext⟩

/-- A name is refused and another one added in capitals; then a list holds one modality twice. -/
theorem load_after_refusal :
    let config := Config.strict.run [.withModality "9lives", .withModality "SPATIAL"]
    config = ⟨.strict, ⟨Modality.builtins ++ [⟨"Spatial"⟩]⟩⟩ ∧
    Config.load config.toJson.compact = .ok config ∧
    Config.load (Json.obj [("modalities", .arr (["graph", "geo_2", "GRAPH"].map .str))]).compact =
      .ok ⟨.lenient, ⟨[⟨"Graph"⟩, ⟨"Geo_2"⟩]⟩⟩ := by
  have h := @config_texts .strict (by simp) [.withModality "9lives", .withModality "SPATIAL"]
  have hmatches : ∀ name ∈ ["graph", "geo_2", "GRAPH"], MatchesPattern name := by
    simp only [← isIdentifier_iff]
    decide
  refine ⟨by decide, h.1, ?_⟩
  refine ((h.2.2 _ _ (textOf_compact _)).2.2 hmatches).trans (congrArg Except.ok ?_)
  decide

end HexadQuery
