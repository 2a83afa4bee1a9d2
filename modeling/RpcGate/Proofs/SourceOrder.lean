import RpcGate.Proofs.Appending
import RpcGate.Proofs.Decision

/-!
# The order of independent sources

A registry is decided by what each user's entries are, in their order
(`Registry.answersLike_ofEntries`). Sources that share no user can therefore
change places, while the entries of one source stay in order
(`Registry.build_answersLike`).
-/

namespace RpcGate

namespace Registry

/-- The same users, and the same passwords for them. -/
structure AnswersLike (r r' : Registry) : Prop where
  size : r.size = r'.size
  contains : ∀ user, r.contains user = r'.contains user
  verify : ∀ user password, r.verify user password = r'.verify user password

section
variable {r r' : Registry} {entries entries' : List Entry}

theorem size_of_get? (h : ∀ user, r.get? user = r'.get? user) : r.size = r'.size := by
  have hperm : r.usernames.Perm r'.usernames := by
    refine (List.perm_ext_iff_of_nodup r.distinct r'.distinct).2 fun user => ?_
    show user ∈ r.usernames ↔ user ∈ r'.usernames
    rw [mem_usernames_iff, mem_usernames_iff, h]
  have hlength := hperm.length_eq
  rwa [usernames, usernames, List.length_map, List.length_map] at hlength

theorem answersLike_of_get? (h : ∀ user, r.get? user = r'.get? user) : AnswersLike r r' where
  size := size_of_get? h
  contains user := by rw [contains, contains, h]
  verify user password := by rw [verify, verify, h]

theorem answersLike_ofEntries (legacy : Option LegacyPair)
    (h : ∀ user, entries.filter (·.username = user) = entries'.filter (·.username = user)) :
    AnswersLike (ofEntries legacy entries) (ofEntries legacy entries') := by
  refine answersLike_of_get? fun user => ?_
  rw [get?_ofEntries, get?_ofEntries, lastEntry, lastEntry, h]

end

end Registry

/-! ## Sources in another order -/

section
variable {fs : FileSystem} {es : Directive → List Entry} {ds ds' : List Directive}

theorem resolve_adds (h : ∀ d ∈ ds, d.isAdd ∧ d.entries fs = .ok (es d)) : resolve fs ds = .ok (ds.flatMap es) := by
  have hadded : added es ds = ds.flatMap es := by
    rw [added, List.filter_eq_self.2 fun d hd => (h d hd).1]
  rw [resolve_eq_active fun d hd _ => (h d hd).2, Replay.foldl_adds es fun d hd => (h d hd).1, hadded]
  rfl

/-- No user has entries from two of the directives. -/
def Independent (es : Directive → List Entry) (ds : List Directive) : Prop :=
  ∀ d ∈ ds, ∀ d' ∈ ds, d ≠ d' → ∀ e ∈ es d, ∀ e' ∈ es d', e.username ≠ e'.username

theorem Independent.of_subset (h : Independent es ds) (hs : ds' ⊆ ds) : Independent es ds' :=
  fun d hd d' hd' => h d (hs hd) d' (hs hd')

theorem Independent.filter_swap {a b : Directive} (h : Independent es ds) (ha : a ∈ ds) (hb : b ∈ ds) (user : Text) :
    (es a ++ es b).filter (·.username = user) = (es b ++ es a).filter (·.username = user) := by
  by_cases hab : a = b
  · rw [hab]
  · by_cases hu : ∃ e ∈ es a, e.username = user
    · -- the other directive has nothing of the user
      obtain ⟨e, he, hname⟩ := hu
      have hnone : (es b).filter (·.username = user) = [] := by
        refine List.filter_eq_nil_iff.2 fun e' he' hname' => h a ha b hb hab e he e' he' ?_
        rw [hname, of_decide_eq_true hname']
      simp only [List.filter_append, hnone, List.append_nil, List.nil_append]
    · have hnone : (es a).filter (·.username = user) = [] :=
        List.filter_eq_nil_iff.2 fun e he hname => hu ⟨e, he, of_decide_eq_true hname⟩
      simp only [List.filter_append, hnone, List.append_nil, List.nil_append]

theorem filter_flatMap_perm (hp : ds.Perm ds') (h : Independent es ds) (user : Text) :
    (ds.flatMap es).filter (·.username = user) = (ds'.flatMap es).filter (·.username = user) := by
  induction hp with
  | nil => rfl
  | cons d hp ih =>
    rw [List.flatMap_cons, List.flatMap_cons, List.filter_append, List.filter_append,
      ih (h.of_subset (List.subset_cons_self d _))]
  | swap a b ds =>
    simp only [List.flatMap_cons]
    rw [← List.append_assoc, ← List.append_assoc, List.filter_append, List.filter_append _ (ds.flatMap es),
      h.filter_swap (by simp) (by simp)]
  | trans hp _ ih ih' => rw [ih h, ih' (h.of_subset hp.symm.subset)]

end

/-- Adding directives that share no user build registries that answer alike, in whatever order they
stand. So do any directives that leave every user the same entries in the same order. -/
theorem Registry.build_answersLike (fs : FileSystem) (legacy : Option LegacyPair) :
    (∀ (es : Directive → List Entry) (ds ds' : List Directive), ds.Perm ds' →
      (∀ d ∈ ds, d.isAdd ∧ d.entries fs = .ok (es d)) →
      (∀ d ∈ ds, ∀ d' ∈ ds, d ≠ d' → ∀ e ∈ es d, ∀ e' ∈ es d', e.username ≠ e'.username) →
      ∃ r r', build fs ds legacy = .ok r ∧ build fs ds' legacy = .ok r' ∧ AnswersLike r r') ∧
    (∀ (fs' : FileSystem) (ds ds' : List Directive) (entries entries' : List Entry),
      resolve fs ds = .ok entries → resolve fs' ds' = .ok entries' →
      (∀ user, entries.filter (·.username = user) = entries'.filter (·.username = user)) →
      ∃ r r', build fs ds legacy = .ok r ∧ build fs' ds' legacy = .ok r' ∧ AnswersLike r r') := by
  constructor
  · intro es ds ds' hp hread hi
    have hread' : ∀ d ∈ ds', d.isAdd ∧ d.entries fs = .ok (es d) := fun d hd => hread d (hp.mem_iff.2 hd)
    refine ⟨_, _, build_of_resolve (resolve_adds hread) legacy, build_of_resolve (resolve_adds hread') legacy, ?_⟩
    exact answersLike_ofEntries legacy (filter_flatMap_perm hp hi)
  · intro fs' ds ds' entries entries' h h' hsame
    exact ⟨_, _, build_of_resolve h legacy, build_of_resolve h' legacy, answersLike_ofEntries legacy hsame⟩

/-- A file that names a user twice, behind a directive of another user and before it. -/
theorem Registry.build_answersLike_file :
    let a := Entry.sample 'a'
    let a' : Entry := { a with salt := ['t'] }
    let b := Entry.sample 'b'
    let fs := Command.shelf (a.line ++ a'.line)
    let ds := [Directive.addFile "/users".toList, .addInline b.encode]
    ds.Perm ds.reverse ∧ Directive.entries fs (.addFile "/users".toList) = .ok [a, a'] ∧
      ∃ r r', build fs ds none = .ok r ∧ build fs ds.reverse none = .ok r' ∧ AnswersLike r r' := by
  intro a a' b fs ds
  have hfile : Directive.entries fs (.addFile "/users".toList) = .ok [a, a'] := by
    rw [Directive.entries_addFile fs (by decide), Command.readText_shelf]
    have hlisted : Entry.Listed (Text.lines ([] ++ [a, a'].flatMap Entry.line)) ([] ++ [a, a']) :=
      Entry.listed_append_lines .nil rfl (by decide +kernel)
    refine Entry.ofContents_eq_ok_iff.2 ?_
    simpa using hlisted
  have hinline : Directive.entries fs (.addInline b.encode) = .ok [b] := by rfl
  let es : Directive → List Entry := fun d => if d.file? = none then [b] else [a, a']
  have hread : ∀ d ∈ ds, d.isAdd ∧ d.entries fs = .ok (es d) := by
    intro d hd
    rcases List.mem_cons.1 hd with rfl | hd
    · exact ⟨rfl, hfile⟩
    · rw [List.mem_singleton.1 hd]
      exact ⟨rfl, hinline⟩
  have hperm : ds.Perm ds.reverse := (List.reverse_perm ds).symm
  exact ⟨hperm, hfile, (build_answersLike fs none).1 es ds ds.reverse hperm hread (by decide +kernel)⟩

end RpcGate
