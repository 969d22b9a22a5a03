import Mathlib
import TelemetryGateway.Proofs.Settings.Reading
import TelemetryGateway.Settings.Sources

/-!
# Texts from the environment

A variable sets one setting, and where the setting is a text, it is set to the text of the variable, with one exception.
The value of a variable is a truth value or a number if its text can be read as one, also where a text is asked for, and
is then written out anew: a password of `007` becomes `7`. All other settings stay as they are, unless the YAML text
has a list for the section: the list gives way to a table, and the rest of the section is what it is by default.

## Main definitions

- `TextSetting`: the settings that are texts, with their variables
- `ReadBack`: the text that comes of the text of a variable
- `treeOf?`: the tree that settings are read from
- `TextSetting.cleared`: the settings without a section that a variable replaces

## Main statements

- `exists_readBack`: what is read from the value of a variable
- `set?_names`, `exists_table_of_overlay?`: how a variable changes the tree
- `ofNode?_placed`: how the changed tree is read
- `override_readBack`: the settings with the variable of a text
-/

namespace TelemetryGateway.Settings

open TelemetryGateway.Number (Double Double.read?)
open TelemetryGateway.Telemetry.Wire (Lens)
open TelemetryGateway.Text
open TelemetryGateway.Yaml (Node Token document? setEntry)

/-! ## The settings that are texts -/

inductive TextSetting where
  | bindAddress
  | username
  | password
  | indexMetrics
  | indexLogs
  | level
deriving DecidableEq, Repr

namespace TextSetting

/-- The names on the way to the setting. -/
def names : TextSetting → List String
  | .bindAddress => ["server", "bind_address"]
  | .username => ["server", "basic_auth", "username"]
  | .password => ["server", "basic_auth", "password"]
  | .indexMetrics => ["indexer", "index_metrics"]
  | .indexLogs => ["indexer", "index_logs"]
  | .level => ["logging", "level"]

/-- The name of the variable for the setting. -/
def variableName (setting : TextSetting) : String :=
  "__".intercalate ("TELEGATE" :: setting.names.map uppercase)

def get : TextSetting → Settings → String
  | .bindAddress, c => c.server.bindAddress
  | .username, c => c.server.basicAuth.username
  | .password, c => c.server.basicAuth.password
  | .indexMetrics, c => c.indices.metrics
  | .indexLogs, c => c.indices.logs
  | .level, c => c.logging.level

/-- Settings in which one is set. -/
def set (t : String) (c : Settings) : TextSetting → Settings
  | .bindAddress => { c with server := { c.server with bindAddress := t } }
  | .username => { c with server := { c.server with basicAuth := { c.server.basicAuth with username := t } } }
  | .password => { c with server := { c.server with basicAuth := { c.server.basicAuth with password := t } } }
  | .indexMetrics => { c with indices := { c.indices with metrics := t } }
  | .indexLogs => { c with indices := { c.indices with logs := t } }
  | .level => { c with logging := { c.logging with level := t } }

theorem get_set (setting : TextSetting) (t : String) (c : Settings) : setting.get (setting.set t c) = t := by
  cases setting <;> rfl

end TextSetting

/-! ## Values of variables -/

/-- The text that comes of the text of a variable. -/
inductive ReadBack (s : String) : String → Prop
  | truth {b : Bool} (hword : lowercase s = boolText b) : ReadBack s (boolText b)
  | integer {n : Int} (hint : Integer.signed? Integer.minInt64 Integer.maxInt64 s.toList = some n) :
      ReadBack s (toString n)
  | number {x : Double} (hint : Integer.signed? Integer.minInt64 Integer.maxInt64 s.toList = none)
      (hreal : Double.read? s = some x) : ReadBack s x.plain
  | verbatim (hword : ∀ b, lowercase s ≠ boolText b)
      (hint : Integer.signed? Integer.minInt64 Integer.maxInt64 s.toList = none) (hreal : Double.read? s = none) :
      ReadBack s s

/-- A variable that is not for a list has no table for its value, and what is read from it as a text. -/
theorem exists_readBack {name : String} (hname : name ∉ listNames) (s : String) :
    (∀ entries, valueOf name s ≠ .table entries) ∧ ∃ t, ReadBack s t ∧ lenient.text (valueOf name s) = some t := by
  by_cases htrue : lowercase s = "true"
  · simp only [valueOf, if_pos htrue]
    exact ⟨fun _ => by simp, _, .truth (b := true) htrue, rfl⟩
  by_cases hfalse : lowercase s = "false"
  · simp only [valueOf, if_neg htrue, if_pos hfalse]
    exact ⟨fun _ => by simp, _, .truth (b := false) hfalse, rfl⟩
  have hword : ∀ b, lowercase s ≠ boolText b := by
    rintro (_ | _)
    · exact hfalse
    · exact htrue
  simp only [valueOf, if_neg htrue, if_neg hfalse]
  cases hint : Integer.signed? Integer.minInt64 Integer.maxInt64 s.toList with
  | some n => exact ⟨fun _ => by simp, _, .integer hint, rfl⟩
  | none =>
    cases hreal : Double.read? s with
    | some x => exact ⟨fun _ => by simp, _, .number hint hreal, rfl⟩
    | none =>
      have hlist : listNames.contains name = false := by simpa using hname
      simp only [hlist, Bool.false_eq_true, if_false]
      exact ⟨fun _ => by simp, _, .verbatim hword hint hreal, rfl⟩

/-- The path and the value of a variable, from its name in small letters. -/
theorem settingOf?_eq_some {name : String} {spelled : List Char}
    (h : name.toList.map smallLetter = variableStart ++ spelled) (s : String) :
    settingOf? (name, s) = some (Path.ofName (dotted spelled), valueOf (String.ofList (dotted spelled)) s) := by
  have hstart : variableStart.isPrefixOf (variableStart ++ spelled) = true := by simp
  simp only [settingOf?, h, hstart, if_true, List.drop_left]

/-- The variable for a setting leads to the setting, which is no list. -/
theorem TextSetting.settingOf?_variableName (setting : TextSetting) :
    ∃ name, name ∉ listNames ∧ ∀ s,
      settingOf? (setting.variableName, s) = some (setting.names.map .name, valueOf name s) := by
  have hspelled : ∃ spelled, setting.variableName.toList.map smallLetter = variableStart ++ spelled ∧
      Path.ofName (dotted spelled) = setting.names.map .name ∧ String.ofList (dotted spelled) ∉ listNames := by
    refine ⟨(setting.variableName.toList.map smallLetter).drop variableStart.length, ?_⟩
    cases setting <;> decide
  obtain ⟨spelled, hname, hpath, hlist⟩ := hspelled
  refine ⟨_, hlist, fun s => ?_⟩
  rw [settingOf?_eq_some hname, hpath]

/-! ## The tree -/

/-- The tree that settings are read from. -/
def treeOf? (text : String) (env : Environment) : Option Node :=
  (textEntries? text).bind fun entries => overlay? (entries ++ env.filterMap settingOf?) (.table [])

theorem load_eq_ok_iff {text : String} {env : Environment} {c : Settings} :
    load text env = .ok c ↔ ∃ tree, treeOf? text env = some tree ∧ ofNode? lenient tree = some c := by
  unfold load treeOf?
  cases textEntries? text with
  | none => simp
  | some entries =>
    simp only [Option.bind_some]
    cases overlay? (entries ++ env.filterMap settingOf?) (.table []) with
    | none => simp
    | some tree =>
      simp only [Option.some.injEq, exists_eq_left']
      cases ofNode? lenient tree with
      | none => simp
      | some c => simp

/-- Every name leads to an entry at the top. -/
theorem ofName_eq_cons (name : List Char) : ∃ first path, Path.ofName name = .name first :: path := by
  simp only [Path.ofName]
  cases nameOf? name with
  | none => exact ⟨_, _, rfl⟩
  | some found =>
    simp only
    cases stepsOf? found.2.length found.2 with
    | none => exact ⟨_, _, rfl⟩
    | some path => exact ⟨_, _, rfl⟩

theorem exists_table_of_set? {v tree tree' : Node} {first : String} {path : Path}
    (h : Path.set? v (.name first :: path) tree = some tree') : ∃ entries, tree' = .table entries := by
  cases path with
  | nil =>
    cases h
    cases v <;> exact ⟨_, rfl⟩
  | cons step path =>
    obtain ⟨w, -, rfl⟩ := Option.map_eq_some_iff.1 h
    exact ⟨_, rfl⟩

/-- What is set at the top makes a table. -/
theorem exists_table_of_overlay? {settings : List (Path × Node)}
    (hsettings : ∀ x ∈ settings, ∃ first path, x.1 = .name first :: path) {entries : List (String × Node)} {tree : Node}
    (h : overlay? settings (.table entries) = some tree) : ∃ entries', tree = .table entries' := by
  induction settings generalizing entries with
  | nil => exact ⟨entries, (Option.some.inj h).symm⟩
  | cons x settings ih =>
    obtain ⟨hfirst, hrest⟩ := List.forall_mem_cons.1 hsettings
    obtain ⟨first, path, hpath⟩ := hfirst
    simp only [overlay?, List.foldlM_cons, Option.bind_eq_bind, Option.bind_eq_some_iff] at h
    obtain ⟨tree', hset, h⟩ := h
    rw [hpath] at hset
    obtain ⟨entries', rfl⟩ := exists_table_of_set? hset
    exact ih hrest h

theorem exists_table_of_treeOf? {text : String} {env : Environment} {tree : Node} (h : treeOf? text env = some tree) :
    ∃ entries, tree = .table entries := by
  obtain ⟨entries, hentries, hoverlay⟩ := Option.bind_eq_some_iff.1 h
  refine exists_table_of_overlay? (fun x hmem => ?_) hoverlay
  rcases List.mem_append.1 hmem with hmem | hmem
  · unfold textEntries? at hentries
    split at hentries
    · cases hentries
      obtain ⟨e, -, rfl⟩ := List.mem_map.1 hmem
      exact ofName_eq_cons e.1.toList
    · cases hentries
  · obtain ⟨e, -, hsetting⟩ := List.mem_filterMap.1 hmem
    simp only [settingOf?, Option.ite_none_right_eq_some, Option.some.injEq] at hsetting
    rw [← hsetting.2]
    exact ofName_eq_cons _

/-- A tree with a value behind names; all that is no table on the way becomes one. -/
def placed (v : Node) : List String → Option Node → Node
  | [], _ => v
  | name :: names, v? => .table (setEntry name (placed v names ((laid v?).lookup name)) (laid v?))

/-- A value is set at a path of names. -/
theorem set?_names {v : Node} (hv : ∀ entries, v ≠ .table entries) (names : List String) (tree : Node) :
    Path.set? v (names.map .name) tree = some (placed v names (some tree)) := by
  induction names generalizing tree with
  | nil => rfl
  | cons name names ih =>
    cases names with
    | nil =>
      cases v with
      | table entries => exact absurd rfl (hv entries)
      | _ => rfl
    | cons name' names =>
      have hrest := ih ((tree.entries.lookup name).getD .null)
      simp only [List.map_cons] at hrest ⊢
      rw [Path.set?, hrest]
      · rfl
      · simp

/-- One variable more, among others that hold no settings. -/
theorem treeOf?_insert {text : String} {front back : Environment} {tree : Node}
    (htree : treeOf? text (front ++ back) = some tree) (hback : ∀ e ∈ back, settingOf? e = none)
    {e : String × String} {path : Path} {v : Node} (he : settingOf? e = some (path, v)) :
    treeOf? text (front ++ e :: back) = path.set? v tree := by
  have hnone : back.filterMap settingOf? = [] := List.filterMap_eq_nil_iff.2 hback
  obtain ⟨entries, hentries, hoverlay⟩ := Option.bind_eq_some_iff.1 htree
  rw [List.filterMap_append, hnone, List.append_nil] at hoverlay
  simp only [treeOf?, hentries, Option.bind_some, List.filterMap_append, List.filterMap_cons, he, hnone]
  rw [← List.append_assoc, overlay?, List.foldlM_append]
  rw [overlay?] at hoverlay
  rw [hoverlay]
  simp

/-! ## Reading the tree -/

/-- What stands behind names. -/
def standing (v? : Option Node) : List String → Option Node
  | [] => v?
  | name :: names => standing ((laid v?).lookup name) names

/-- The settings without a section that a variable replaces, namely one that is written as a list. -/
def TextSetting.cleared (tree : Node) (c : Settings) : TextSetting → Settings
  | .bindAddress => { c with server := kept (standing (some tree) ["server"]) {} c.server }
  | .username | .password =>
    let server := kept (standing (some tree) ["server"]) {} c.server
    { c with
      server :=
        { server with basicAuth := kept (standing (some tree) ["server", "basic_auth"]) {} server.basicAuth } }
  | .indexMetrics | .indexLogs =>
    { c with indices := kept (standing (some tree) ["indexer"]) defaultIndices c.indices }
  | .level => { c with logging := kept (standing (some tree) ["logging"]) {} c.logging }

/-- A list stands for a section on the way to the setting. -/
def TextSetting.Listed (setting : TextSetting) (tree : Node) : Prop :=
  ∃ names, names <+: setting.names ∧ (standing (some tree) names).any Node.isList = true

/-- Where no list stands for a section, nothing is replaced but the setting. -/
theorem TextSetting.cleared_of_not_listed {setting : TextSetting} {tree : Node} (h : ¬ setting.Listed tree)
    (c : Settings) : setting.cleared tree c = c := by
  have hkept {σ : Type} (names : List String) (hnames : names <+: setting.names) (start r : σ) :
      kept (standing (some tree) names) start r = r := if_neg fun hlist => h ⟨names, hnames, hlist⟩
  cases setting with
  | bindAddress => simp only [cleared, hkept ["server"] (by decide)]
  | username =>
    simp only [cleared, hkept ["server"] (by decide), hkept ["server", "basic_auth"] (by decide)]
  | password =>
    simp only [cleared, hkept ["server"] (by decide), hkept ["server", "basic_auth"] (by decide)]
  | indexMetrics => simp only [cleared, hkept ["indexer"] (by decide)]
  | indexLogs => simp only [cleared, hkept ["indexer"] (by decide)]
  | level => simp only [cleared, hkept ["logging"] (by decide)]

section Placed

variable {entries : List (String × Node)} {c : Settings} {v : Node} {t : String}
  (hread : ofNode? lenient (.table entries) = some c) (hv : lenient.text v = some t)

include hread hv

/-- A field of a section. -/
theorem ofNode?_placed_field {σ : Type} {slots : List (Slot σ)} {start : σ} {part field : String} {get : Settings → σ}
    {set : σ → Settings → Settings} {get' : σ → String} {set' : String → σ → σ}
    (hpart : Stands parts part (readPart slots start) get set) (hstart : get {} = start)
    (hfield : Stands slots field Conversion.text get' set') :
    ofNode? lenient (placed v [part, field] (some (.table entries))) =
      some (set (set' t (kept (standing (some (.table entries)) [part]) start (get c))) c) := by
  have hroot : readOr parts {} lenient (some (.table entries)) = some c := hread
  have hsection := hpart.readOr_lookup hroot rfl hstart
  exact hpart.readPart_laid hroot (hfield.readPart_laid hsection hv)

/-- A field of the credentials, which are a part of a section. -/
theorem ofNode?_placed_credential {field : String} {get : BasicAuth → String} {set : String → BasicAuth → BasicAuth}
    (hfield : Stands basicAuthSlots field Conversion.text get set) :
    ofNode? lenient (placed v ["server", "basic_auth", field] (some (.table entries))) =
      let root := some (Node.table entries)
      let server := kept (standing root ["server"]) {} c.server
      some { c with
        server :=
          { server with basicAuth := set t (kept (standing root ["server", "basic_auth"]) {} server.basicAuth) } } := by
  have hroot : readOr parts {} lenient (some (.table entries)) = some c := hread
  have hserver := stands_server.readOr_lookup hroot rfl rfl
  have hcredentials := stands_basicAuth.readOr_lookup hserver rfl rfl
  exact stands_server.readPart_laid hroot
    (stands_basicAuth.readPart_laid hserver (hfield.readPart_laid hcredentials hv))

/-- A text behind the names of a setting is read as the setting. -/
theorem ofNode?_placed (setting : TextSetting) :
    ofNode? lenient (placed v setting.names (some (.table entries))) =
      some (setting.set t (setting.cleared (.table entries) c)) := by
  cases setting with
  | bindAddress => exact ofNode?_placed_field hread hv stands_server rfl stands_bindAddress
  | username => exact ofNode?_placed_credential hread hv stands_username
  | password => exact ofNode?_placed_credential hread hv stands_password
  | indexMetrics => exact ofNode?_placed_field hread hv stands_indexer rfl stands_indexMetrics
  | indexLogs => exact ofNode?_placed_field hread hv stands_indexer rfl stands_indexLogs
  | level => exact ofNode?_placed_field hread hv stands_logging rfl stands_level

end Placed

/-- **A variable sets the text that is read back from its own.** Wherever it stands among other variables, as long as
none behind it holds a setting, the settings load, and the one that the variable names is the text as it stands, unless
that is a truth value or a number. Nothing else changes where the way to the setting leads through tables. -/
theorem override_readBack (setting : TextSetting) {text : String} {front back : Environment} {c : Settings}
    (hload : load text (front ++ back) = .ok c) (hback : ∀ e ∈ back, settingOf? e = none) (s : String) :
    ∃ (tree : Node) (t : String), treeOf? text (front ++ back) = some tree ∧ ReadBack s t ∧
      load text (front ++ (setting.variableName, s) :: back) = .ok (setting.set t (setting.cleared tree c)) ∧
      setting.get (setting.set t (setting.cleared tree c)) = t ∧
      (¬ setting.Listed tree → setting.cleared tree c = c) := by
  obtain ⟨tree, htree, hread⟩ := load_eq_ok_iff.1 hload
  obtain ⟨entries, rfl⟩ := exists_table_of_treeOf? htree
  obtain ⟨name, hname, hsetting⟩ := setting.settingOf?_variableName
  obtain ⟨hnotable, t, hback', hvalue⟩ := exists_readBack hname s
  have htree' := treeOf?_insert htree hback (hsetting s)
  rw [set?_names hnotable] at htree'
  have hread' := ofNode?_placed hread hvalue setting
  exact ⟨_, t, htree, hback', load_eq_ok_iff.2 ⟨_, htree', hread'⟩, setting.get_set t _,
    fun hlisted => TextSetting.cleared_of_not_listed hlisted c⟩

/-- The password `007` loses its zeros, and the list that stands for the section loses the address and the port. -/
theorem override_readBack_password :
    let listed : Settings := { server := { bindAddress := "a", httpPort := 9 } }
    load "server:\n- a\n- 9" [("HOME", "/")] = .ok listed ∧
      load "server:\n- a\n- 9" [("TELEGATE__SERVER__BASIC_AUTH__PASSWORD", "007"), ("HOME", "/")] =
        .ok { server := { basicAuth := { password := "7" } } } := by
  intro listed
  have htokens : Token.ofText? "server:\n- a\n- 9" = some [.tableStart, .key, .scalar true "server", .value, .dash,
      .scalar true "a", .dash, .scalar true "9", .blockEnd] := by decide +kernel
  have hdocument : document? "server:\n- a\n- 9" = some (.table [("server", .list [.text "a", .int 9])]) := by
    rw [document?, htokens]
    rfl
  have hentries : textEntries? "server:\n- a\n- 9" = some [([.name "server"], .list [.text "a", .int 9])] := by
    rw [textEntries?, hdocument]
    rfl
  have hhome : settingOf? ("HOME", "/") = none := by decide
  have htree : treeOf? "server:\n- a\n- 9" [("HOME", "/")] =
      some (.table [("server", .list [.text "a", .int 9])]) := by
    rw [treeOf?, hentries, List.filterMap_cons_none hhome]
    rfl
  have hload : load "server:\n- a\n- 9" ([] ++ [("HOME", "/")]) = .ok listed := load_eq_ok_iff.2 ⟨_, htree, rfl⟩
  obtain ⟨tree, t, htree', hback, hload', -⟩ := override_readBack .password hload (by simpa using hhome) "007"
  rw [List.nil_append, htree] at htree'
  cases htree'
  have hint : Integer.signed? Integer.minInt64 Integer.maxInt64 "007".toList = some 7 := by decide
  refine ⟨hload, ?_⟩
  cases hback with
  | @truth b hword => cases b <;> exact absurd hword (by decide)
  | integer hint' =>
    rw [hint] at hint'
    cases hint'
    exact hload'
  | number hint' =>
    rw [hint] at hint'
    cases hint'
  | verbatim hword hint' =>
    rw [hint] at hint'
    cases hint'

end TelemetryGateway.Settings
