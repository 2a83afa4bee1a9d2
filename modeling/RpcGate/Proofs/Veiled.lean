import RpcGate.Command.Run
import RpcGate.Proofs.Appending
import RpcGate.Proofs.Projections
import RpcGate.Proofs.SameTree
import RpcGate.Proofs.SettingGrammar

/-!
# Settings with other secrets

Two config files, or two lists of overrides, that are the same but for what
stands after the `=` of a password or an entry. They are read into settings of
the same names in the same order, unless one of the two is refused by an error
that quotes such a token (`settingsOf_alike`).
-/

namespace RpcGate

/-! ## Tokens -/

def secretNames : List Text := [AuthOptions.rpcpassword, AuthOptions.rpcauth]

/-- The name parts before a secret value: these names and their negations. -/
def secretParts : List Text := secretNames ++ secretNames.map (['n', 'o'] ++ ·)

/-- A token less its dashes, if it has any. -/
def Setting.dashless (token : Text) : Text := (undash token).getD token

/-- The same text, but for the value behind the name of a secret. `bare` takes the name part out of
what stands before the `=`. -/
inductive Veiled (bare : Text → Text) : Text → Text → Prop
  | same (t : Text) : Veiled bare t t
  | secret {front : Text} (hf : '=' ∉ front) (hn : Text.trim (bare front) ∈ secretParts) (v v' : Text) :
    Veiled bare (front ++ '=' :: v) (front ++ '=' :: v')

/-- The error quotes a token with the value of a secret in it. -/
inductive SettingsError.QuotesSecret : SettingsError → Prop
  | negation {origin front v : Text} (hf : '=' ∉ front)
    (hn : Text.trim front ∈ secretNames.map (['n', 'o'] ++ ·)) (hv : Text.trim v ∉ [['0'], ['1']]) :
    QuotesSecret (.malformed origin (front ++ '=' :: v) .badNegation)
  | dashless {front v : Text} (hf : '=' ∉ front) (hd : Setting.undash front = none)
    (hn : Text.trim front ∈ secretParts) :
    QuotesSecret (.malformed Source.commandLine.text (front ++ '=' :: v) .noDash)

/-- The same setting, but for the value of a secret. -/
structure Setting.Veils (x x' : Setting) : Prop where
  name : x'.name = x.name
  source : x'.source = x.source
  value : x.name ∉ secretNames → x'.value = x.value

abbrev Settings.Veils (s s' : Settings) : Prop := List.Forall₂ Setting.Veils s s'

namespace Setting

section
variable {front v v' token token' origin : Text} {source : Source}

theorem Veils.refl (x : Setting) : Veils x x := ⟨rfl, rfl, fun _ => rfl⟩

theorem read_name {name : Text} (h : name ∈ secretNames) (v : Text) : read name (some v) = .ok (name, .set v) := by
  simp only [secretNames, List.mem_cons, List.not_mem_nil, or_false] at h
  rcases h with rfl | rfl
  · rfl
  · rfl

theorem isName_of_secret {name : Text} (h : name ∈ secretNames) : name ≠ [] ∧ name.all isNameChar := by
  have all : ∀ name ∈ secretNames, name ≠ [] ∧ name.all isNameChar := by decide
  exact all name h

theorem parse_secret (hf : '=' ∉ front) (hn : Text.trim front ∈ secretParts) (source : Source) (origin : Text) :
    ∃ name ∈ secretNames, ∀ v,
      (∃ value, parse (front ++ '=' :: v) source origin = .ok ⟨name, value, source⟩) ∨
        ∃ e : SettingsError, parse (front ++ '=' :: v) source origin = .error e ∧ e.QuotesSecret := by
  rcases List.mem_append.1 hn with hn | hn
  · refine ⟨Text.trim front, hn, fun v => .inl ⟨.set (Text.trim v), ?_⟩⟩
    simp only [parse, split_append hf, read_name hn]
  · obtain ⟨name, hname, hpart⟩ := List.mem_map.1 hn
    obtain ⟨hne, hchars⟩ := isName_of_secret hname
    refine ⟨name, hname, fun v => ?_⟩
    simp only [parse, split_append hf, ← hpart, List.cons_append, List.nil_append, read_negation hne hchars]
    by_cases h1 : Text.trim v = ['1']
    · exact .inl ⟨.negated, by simp only [if_pos h1]⟩
    · by_cases h0 : Text.trim v = ['0']
      · exact .inl ⟨.bare, by simp only [if_neg h1, if_pos h0]⟩
      · exact .inr ⟨_, by simp only [if_neg h1, if_neg h0]; rfl, .negation hf hn (by simp [h0, h1])⟩

theorem parse_veiled (h : Veiled id token token') (source : Source) (origin : Text) :
    EndAlike SettingsError.QuotesSecret Veils (parse token source origin) (parse token' source origin) := by
  cases h with
  | same => exact .refl Veils.refl _
  | secret hf hn v v' =>
    obtain ⟨name, hname, h⟩ := parse_secret hf hn source origin
    rcases h v with ⟨value, hv⟩ | ⟨e, hv, he⟩
    · rcases h v' with ⟨value', hv'⟩ | ⟨e, hv', he⟩
      · rw [hv, hv']
        exact .ok ⟨rfl, rfl, fun hnot => absurd hname hnot⟩
      · rw [hv']
        exact .right he _
    · rw [hv]
      exact .left he _

theorem undash_append (front v : Text) : undash (front ++ '=' :: v) = (undash front).map (· ++ '=' :: v) := by
  cases front with
  | nil => rfl
  | cons c rest =>
    by_cases hc : c = '-'
    · subst hc
      cases rest with
      | nil => rfl
      | cons d rest =>
        by_cases hd : d = '-'
        · subst hd
          rfl
        · simp [undash, hd]
    · simp [undash, hc]

theorem mem_of_undash {bare : Text} {c : Char} (h : undash front = some bare) (hc : c ∈ bare) : c ∈ front := by
  unfold undash at h
  split at h
  · cases h
    simp [hc]
  · cases h
    simp [hc]
  · cases h

theorem parseOverride_veiled (h : Veiled dashless token token') :
    EndAlike SettingsError.QuotesSecret Veils (parseOverride token) (parseOverride token') := by
  cases h with
  | same => exact .refl Veils.refl _
  | @secret front hf hn v v' =>
    unfold parseOverride
    rw [undash_append, undash_append]
    unfold dashless at hn
    cases hd : undash front with
    | none =>
      rw [hd] at hn
      exact .left (.dashless hf hd hn) _
    | some bare =>
      rw [hd] at hn
      exact parse_veiled (.secret (fun hm => hf (mem_of_undash hd hm)) hn v v') _ _

end

end Setting

/-! ## Config files -/

namespace Settings

section
variable {text text' line line' : Text}

theorem trim_veiled (h : Veiled id line line') : Veiled id (Text.trim line) (Text.trim line') := by
  cases h with
  | same => exact .same _
  | @secret front hf hn v v' =>
    rw [Text.trim_append_sep (by decide), Text.trim_append_sep (by decide)]
    refine .secret (fun hm => hf ?_) ?_ _ _
    · obtain ⟨a, ha, -⟩ := Text.exists_eq_append_trimStart front
      rw [ha]
      exact List.mem_append_right a hm
    · simpa [Text.trim_trimStart] using hn

/-- A secret is no reason to take a line for blank or for a comment. -/
theorem holdsSetting_veiled (h : Veiled id line line') :
    (line ≠ [] && line.head? ≠ some '#') = (line' ≠ [] && line'.head? ≠ some '#') := by
  cases h with
  | same => rfl
  | @secret front => cases front <;> rfl

theorem forall₂_zipIdx {α β : Type} {R : α → β → Prop} {xs : List α} {ys : List β} (h : List.Forall₂ R xs ys) (n : Nat) :
    List.Forall₂ (fun p q => p.2 = q.2 ∧ R p.1 q.1) (xs.zipIdx n) (ys.zipIdx n) := by
  induction h generalizing n with
  | nil => exact .nil
  | cons hxy _ ih =>
    rw [List.zipIdx_cons, List.zipIdx_cons]
    exact .cons ⟨rfl, hxy⟩ (ih (n + 1))

theorem settingLines_veiled (h : List.Forall₂ (Veiled id) (Text.lines text) (Text.lines text')) :
    List.Forall₂ (fun p q => p.1 = q.1 ∧ Veiled id p.2 q.2) (settingLines text) (settingLines text') := by
  unfold settingLines Text.numberedLines
  refine List.rel_filter (fun p q hpq => ?_) ?_
  · exact Bool.eq_iff_iff.1 (holdsSetting_veiled hpq.2)
  · simp only [List.map_map, List.forall₂_map_left_iff, List.forall₂_map_right_iff]
    exact (forall₂_zipIdx h 1).imp fun p q hpq => ⟨hpq.1, trim_veiled hpq.2⟩

theorem parseConfig_veiled (h : List.Forall₂ (Veiled id) (Text.lines text) (Text.lines text')) (path : Path) :
    EndAlike SettingsError.QuotesSecret Veils (parseConfig text path) (parseConfig text' path) := by
  refine .mapM (settingLines_veiled h) fun p q hpq => ?_
  obtain ⟨hline, htoken⟩ := hpq
  rw [hline]
  exact Setting.parse_veiled htoken _ _

theorem parseOverrides_veiled {tokens tokens' : List Text} (h : List.Forall₂ (Veiled Setting.dashless) tokens tokens') :
    EndAlike SettingsError.QuotesSecret Veils (parseOverrides tokens) (parseOverrides tokens') :=
  .mapM h fun _ _ => Setting.parseOverride_veiled

end

end Settings

/-- The same files, but for secrets in the config file. -/
inductive FileSystem.Veils (conf : Path) (fs : FileSystem) : FileSystem → Prop
  | same : Veils conf fs fs
  | config {loc : Location} {text text' : Text} {mode : Mode} {fs' : FileSystem}
    (h : fs.stat conf = .ok (loc, .file (Text.utf8 text) mode))
    (h' : fs'.node? loc = some (.file (Text.utf8 text') mode))
    (ho : ∀ other, other ≠ loc → fs'.node? other = fs.node? other)
    (hu : fs'.umask = fs.umask) (hh : fs'.here = fs.here)
    (hl : List.Forall₂ (Veiled id) (Text.lines text) (Text.lines text')) : Veils conf fs fs'

namespace FileSystem

section
variable {fs fs' : FileSystem} {conf p : Path}

theorem Veils.sameTree (h : Veils conf fs fs') : fs.SameTree fs' := by
  cases h with
  | same => exact .refl fs
  | @config loc text text' mode _ h h' ho hu hh =>
    obtain ⟨-, hn⟩ := stat_eq_ok h
    refine ⟨fun other => ?_, hu, hh⟩
    by_cases heq : other = loc
    · rw [heq, hn, h']
      exact .file _ _ mode
    · rw [ho other heq]
      exact .same _

theorem readText_congr (h : fs'.stat p = fs.stat p) : fs'.readText p = fs.readText p := by
  unfold readText read
  rw [h]

/-- The config file is read as two texts or not at all, every other file as the same text. -/
theorem Veils.readText_cases (h : Veils conf fs fs') (p : Path) :
    fs'.readText p = fs.readText p ∨
      fs.locate .reach p = fs.locate .reach conf ∧ ∃ text text', fs.readText p = .ok text ∧ fs'.readText p = .ok text' ∧
        List.Forall₂ (Veiled id) (Text.lines text) (Text.lines text') := by
  have htree := h.sameTree
  cases h with
  | same => exact .inl rfl
  | @config loc text text' mode _ h h' ho _ _ hl =>
    obtain ⟨hconf, hn⟩ := stat_eq_ok h
    cases hp : fs.locate .reach p with
    | error fault =>
      refine .inl (readText_congr ?_)
      rw [stat, stat, htree.locate, hp]
      rfl
    | ok l =>
      have hp' : fs'.locate .reach p = .ok l := (htree.locate .reach p).trans hp
      by_cases hloc : l = loc
      · subst hloc
        have ht := readText_of_stat (stat_of_reach hp hn)
        have ht' := readText_of_stat (stat_of_reach hp' h')
        cases hm : mode.canRead with
        | true => exact .inr ⟨hconf.symm, text, text', by rw [ht, hm]; rfl, by rw [ht', hm]; rfl, hl⟩
        | false => exact .inl (by rw [ht, ht', hm]; rfl)
      · refine .inl (readText_congr ?_)
        rw [stat, stat, hp, hp']
        simp only [bind, Except.bind, ho l hloc]

end

end FileSystem

theorem Settings.loadConfig_veiled {fs fs' : FileSystem} {conf : Path} (h : fs.Veils conf fs') (required : Bool) :
    EndAlike SettingsError.QuotesSecret Veils (loadConfig fs conf required) (loadConfig fs' conf required) := by
  have refl (x : Except SettingsError Settings) : EndAlike SettingsError.QuotesSecret Veils x x :=
    .refl (fun s => List.forall₂_same.2 fun x _ => .refl x) x
  unfold loadConfig
  rcases h.readText_cases conf with heq | ⟨-, text, text', ht, ht', hl⟩
  · rw [heq]
    exact refl _
  · rw [ht, ht']
    exact parseConfig_veiled hl conf

namespace Command

def LoadError.QuotesSecret : LoadError → Prop
  | .settings e => e.QuotesSecret
  | .noDatadir _ | .startup _ => False

/-- What a server reads its configuration from: the settings of the config file, then the overrides. -/
def settingsOf (args : ServeArgs) (fs : FileSystem) : Except LoadError Settings :=
  if !fs.isDirectory args.datadir then .error (.noDatadir args.datadir)
  else do
    let config ← (Settings.loadConfig fs args.conf args.confRequired).mapError .settings
    let overrides ← (Settings.parseOverrides args.overrides).mapError .settings
    return config ++ overrides

theorem load_eq (args : ServeArgs) (fs : FileSystem) : load args fs = settingsOf args fs >>= fun s =>
    (ServerConfig.ofSettings args.address args.datadir s).mapError .startup := by
  unfold load settingsOf
  split
  · rfl
  · cases Settings.loadConfig fs args.conf args.confRequired with
    | error e => rfl
    | ok config => cases Settings.parseOverrides args.overrides with
      | error e => rfl
      | ok overrides => rfl

theorem settingsOf_veiled {args : ServeArgs} {overrides : List Text} {fs fs' : FileSystem}
    (ho : List.Forall₂ (Veiled Setting.dashless) args.overrides overrides) (hf : fs.Veils args.conf fs') :
    EndAlike LoadError.QuotesSecret Settings.Veils (settingsOf args fs)
      (settingsOf { args with overrides := overrides } fs') := by
  have lift {x y : Except SettingsError Settings} (h : EndAlike SettingsError.QuotesSecret Settings.Veils x y) :
      EndAlike LoadError.QuotesSecret Settings.Veils (x.mapError .settings) (y.mapError .settings) :=
    h.mapError LoadError.settings fun _ he => he
  unfold settingsOf
  rw [hf.sameTree.isDirectory]
  split
  · exact .error _
  · refine (lift (Settings.loadConfig_veiled hf args.confRequired)).bind fun config config' hc => ?_
    refine (lift (Settings.parseOverrides_veiled ho)).bind fun given given' hg => ?_
    exact .ok (List.rel_append hc hg)

end Command

end RpcGate
