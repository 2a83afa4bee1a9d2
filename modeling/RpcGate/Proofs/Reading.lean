import Mathlib.Data.List.Basic
import RpcGate.Proofs.Printing

/-!
# What reading gives, and reading what was printed

A value that has been read has its members in the order of their names and at
most 127 containers inside each other (`fits_of_ofText?`). Such a value, when it
is printed and read again, is the same value but for its numbers
(`ofBytes?_print`), and the same altogether if these are integers.
-/

namespace RpcGate

/-! ## The order of names -/

namespace Text

theorem before_refl (a : Text) : before a a := by
  induction a with
  | nil => rfl
  | cons c a ih => rw [before, if_pos rfl, ih]

theorem before_total (a b : Text) : before a b ∨ before b a := by
  induction a generalizing b with
  | nil => exact .inl rfl
  | cons c a ih =>
    cases b with
    | nil => exact .inr rfl
    | cons d b =>
      by_cases h : c = d
      · subst h
        simpa only [before, if_true] using ih b
      · have hne : c.toNat ≠ d.toNat := fun he => h (Char.toNat_inj.1 he)
        simp only [before, if_neg h, if_neg (Ne.symm h), decide_eq_true_eq]
        omega

theorem before_antisymm {a b : Text} (h : before a b) (h' : before b a) : a = b := by
  induction a generalizing b with
  | nil =>
    cases b with
    | nil => rfl
    | cons d b => cases h'
  | cons c a ih =>
    cases b with
    | nil => cases h
    | cons d b =>
      by_cases hc : c = d
      · subst hc
        simp only [before, if_true] at h h'
        rw [ih h h']
      · simp only [before, if_neg hc, if_neg (Ne.symm hc), decide_eq_true_eq] at h h'
        omega

theorem before_trans {a b c : Text} (h : before a b) (h' : before b c) : before a c := by
  induction a generalizing b c with
  | nil => rfl
  | cons x a ih =>
    cases b with
    | nil => cases h
    | cons y b =>
      cases c with
      | nil => cases h'
      | cons z c =>
        by_cases hxy : x = y
        · subst hxy
          by_cases hxz : x = z
          · subst hxz
            simp only [before, if_true] at h h' ⊢
            exact ih h h'
          · simp only [before, if_neg hxz] at h' ⊢
            exact h'
        · simp only [before, if_neg hxy, decide_eq_true_eq] at h
          by_cases hyz : y = z
          · subst hyz
            simpa only [before, if_neg hxy, decide_eq_true_eq] using h
          · simp only [before, if_neg hyz, decide_eq_true_eq] at h'
            have hxz : x ≠ z := by
              rintro rfl
              omega
            simp only [before, if_neg hxz, decide_eq_true_eq]
            omega

/-- Comes before, and is another text. -/
def Precedes (a b : Text) : Prop := a ≠ b ∧ before a b

theorem Precedes.trans {a b c : Text} (h : Precedes a b) (h' : Precedes b c) : Precedes a c := by
  refine ⟨?_, before_trans h.2 h'.2⟩
  rintro rfl
  exact h.1 (before_antisymm h.2 h'.2)

theorem precedes_of_not_before {a b : Text} (h : ¬ before a b) : Precedes b a := by
  refine ⟨?_, (before_total a b).resolve_left h⟩
  rintro rfl
  exact h (before_refl b)

end Text

namespace Json

section
variable {name : Text} {value : Json} {members : List (Text × Json)} {n : Nat} {v w : Json}

def IsSorted (members : List (Text × Json)) : Prop := (members.map (·.1)).Pairwise Text.Precedes

theorem mem_put {m : Text × Json} (h : m ∈ put name value members) : m = (name, value) ∨ m ∈ members := by
  fun_induction put name value members with
  | case1 => exact .inl (List.mem_singleton.1 h)
  | case2 v rest => exact (List.mem_cons.1 h).imp_right (List.mem_cons_of_mem _)
  | case3 n v rest hn hb ih =>
    rcases List.mem_cons.1 h with rfl | h
    · exact .inr List.mem_cons_self
    · exact (ih h).imp_right (List.mem_cons_of_mem _)
  | case4 n v rest hn hb => exact List.mem_cons.1 h

theorem isSorted_put (h : IsSorted members) : IsSorted (put name value members) := by
  fun_induction put name value members with
  | case1 => exact List.pairwise_singleton _ _
  | case2 v rest => exact h
  | case3 n v rest hn hb ih =>
    obtain ⟨hfirst, hrest⟩ := List.pairwise_cons.1 h
    refine List.pairwise_cons.2 ⟨fun other ho => ?_, ih hrest⟩
    obtain ⟨m, hm, rfl⟩ := List.mem_map.1 ho
    rcases mem_put hm with rfl | hm
    · exact ⟨hn, hb⟩
    · exact hfirst m.1 (List.mem_map_of_mem hm)
  | case4 n v rest hn hb =>
    have hname := Text.precedes_of_not_before hb
    refine List.pairwise_cons.2 ⟨List.forall_mem_cons.2 ⟨hname, fun other ho => ?_⟩, h⟩
    exact hname.trans ((List.pairwise_cons.1 h).1 other ho)

/-- A name that comes after all others is put at the end. -/
theorem put_last (h : ∀ m ∈ members, Text.Precedes m.1 name) : put name value members = members ++ [(name, value)] := by
  induction members with
  | nil => rfl
  | cons m members ih =>
    obtain ⟨hm, hrest⟩ := List.forall_mem_cons.1 h
    rw [put, if_neg hm.1, if_pos hm.2, ih hrest]
    rfl

theorem put_of_isSorted {done : List (Text × Json)} (h : IsSorted (done ++ (name, value) :: members)) :
    put name value done = done ++ [(name, value)] := by
  rw [IsSorted, List.map_append, List.pairwise_append] at h
  exact put_last fun m hm => h.2.2 m.1 (List.mem_map_of_mem hm) name List.mem_cons_self

/-! ## How deep a value is -/

/-- At most `n` containers inside each other, and all members in order. -/
inductive Fits : Nat → Json → Prop
  | null {n : Nat} : Fits n .null
  | bool {n : Nat} (b : Bool) : Fits n (.bool b)
  | number {n : Nat} (x : JsonNumber) : Fits n (.number x)
  | string {n : Nat} (t : Text) : Fits n (.string t)
  | array {n : Nat} {items : List Json} (h : ∀ item ∈ items, Fits n item) : Fits (n + 1) (.array items)
  | object {n : Nat} {members : List (Text × Json)} (ho : IsSorted members) (h : ∀ m ∈ members, Fits n m.2) :
    Fits (n + 1) (.object members)

structure MembersFit (n : Nat) (members : List (Text × Json)) : Prop where
  sorted : IsSorted members
  fits : ∀ m ∈ members, Fits n m.2

theorem membersFit_nil : MembersFit n [] :=
  ⟨.nil, fun _ hm => absurd hm List.not_mem_nil⟩

theorem MembersFit.put (h : MembersFit n members) (hv : Fits n value) : MembersFit n (put name value members) := by
  refine ⟨isSorted_put h.sorted, fun m hm => ?_⟩
  rcases mem_put hm with rfl | hm
  · exact hv
  · exact h.fits m hm

theorem membersFit_foldl_put {given : List (String × Json)} (h : MembersFit n members) (hv : ∀ m ∈ given, Fits n m.2) :
    MembersFit n (given.foldl (fun acc m => Json.put m.1.toList m.2 acc) members) := by
  induction given generalizing members with
  | nil => exact h
  | cons m given ih =>
    obtain ⟨hm, hrest⟩ := List.forall_mem_cons.1 hv
    exact ih (h.put hm) hrest

theorem fits_ofMembers {given : List (String × Json)} (h : ∀ m ∈ given, Fits n m.2) : Fits (n + 1) (ofMembers given) := by
  have hmembers := membersFit_foldl_put membersFit_nil h
  exact .object hmembers.sorted hmembers.fits

theorem keeps_ofMembers {given : List (String × Json)} (h : ∀ m ∈ given, Keeps m.2) : Keeps (ofMembers given) := by
  have hmembers : ∀ (acc : List (Text × Json)), (∀ m ∈ acc, Keeps m.2) →
      ∀ m ∈ given.foldl (fun acc m => Json.put m.1.toList m.2 acc) acc, Keeps m.2 := by
    induction given with
    | nil => exact fun _ hacc => hacc
    | cons e given ih =>
      obtain ⟨he, hrest⟩ := List.forall_mem_cons.1 h
      refine fun acc hacc => ih hrest _ fun m hm => ?_
      rcases mem_put hm with rfl | hm
      · exact he
      · exact hacc m hm
  exact keeps_object (hmembers [] fun _ hm => absurd hm List.not_mem_nil)

theorem Fits.mono (h : Fits n v) {m : Nat} (hm : n ≤ m) : Fits m v := by
  induction h generalizing m with
  | null => exact .null
  | bool b => exact .bool b
  | number x => exact .number x
  | string t => exact .string t
  | @array n items _ ih =>
    obtain ⟨m, rfl⟩ := Nat.exists_eq_add_of_le' (Nat.le_of_add_left_le hm)
    exact .array fun item hi => ih item hi (by omega)
  | @object n members ho _ ih =>
    obtain ⟨m, rfl⟩ := Nat.exists_eq_add_of_le' (Nat.le_of_add_left_le hm)
    exact .object ho fun e he => ih e he (by omega)

theorem map_fst_rereadMembers? {members members' : List (Text × Json)} (h : rereadMembers? members = some members') :
    members'.map (·.1) = members.map (·.1) ∧ ∀ m ∈ members', ∃ e ∈ members, reread? e.2 = some m.2 := by
  induction members generalizing members' with
  | nil =>
    obtain rfl := Option.some.inj h
    exact ⟨rfl, fun _ hm => absurd hm List.not_mem_nil⟩
  | cons e members ih =>
    simp only [rereadMembers?, Option.bind_eq_bind, Option.bind_eq_some_iff, Option.pure_def, Option.some.injEq] at h
    obtain ⟨value, hv, rest, hr, rfl⟩ := h
    obtain ⟨hnames, hmem⟩ := ih hr
    refine ⟨congrArg (e.1 :: ·) hnames, List.forall_mem_cons.2 ⟨⟨e, List.mem_cons_self, hv⟩, fun m hm => ?_⟩⟩
    obtain ⟨e', he', hm'⟩ := hmem m hm
    exact ⟨e', List.mem_cons_of_mem _ he', hm'⟩

/-- Rereading changes the values under the names, and neither adds a name nor loses one. -/
theorem lookup_rereadMembers? {members members' : List (Text × Json)} (h : rereadMembers? members = some members')
    (name : Text) : (members.lookup name).map reread? = (members'.lookup name).map some := by
  induction members generalizing members' with
  | nil =>
    obtain rfl := Option.some.inj h
    rfl
  | cons e members ih =>
    simp only [rereadMembers?, Option.bind_eq_bind, Option.bind_eq_some_iff, Option.pure_def, Option.some.injEq] at h
    obtain ⟨value, hv, rest, hr, rfl⟩ := h
    rw [List.lookup_cons, List.lookup_cons]
    cases name == e.1 with
    | true => exact congrArg some hv
    | false => exact ih hr

theorem map_reread?_get? (h : reread? v = some w) (name : Text) : (v.get? name).map reread? = (w.get? name).map some := by
  cases v with
  | object members =>
    obtain ⟨members', hmembers, rfl⟩ := Option.map_eq_some_iff.1 h
    exact lookup_rereadMembers? hmembers name
  | array items =>
    obtain ⟨items', -, rfl⟩ := Option.map_eq_some_iff.1 h
    rfl
  | number x =>
    obtain ⟨y, -, rfl⟩ := Option.map_eq_some_iff.1 h
    rfl
  | null =>
    obtain rfl := Option.some.inj h
    rfl
  | bool b =>
    obtain rfl := Option.some.inj h
    rfl
  | string t =>
    obtain rfl := Option.some.inj h
    rfl

theorem isSome_get?_reread (h : reread? v = some w) (name : Text) : (w.get? name).isSome = (v.get? name).isSome := by
  have hmap := congrArg Option.isSome (map_reread?_get? h name)
  simpa using hmap.symm

theorem get?_reread_of_keeps (h : reread? v = some w) {part : Json} (hp : v.get? name = some part) (hk : Keeps part) :
    w.get? name = some part := by
  have hmap := map_reread?_get? h name
  rw [hp, Option.map_some, show part.reread? = some part from hk] at hmap
  obtain ⟨part', hw, he⟩ := Option.map_eq_some_iff.1 hmap.symm
  rw [hw, Option.some.inj he]

theorem mem_rereadItems? {items items' : List Json} (h : rereadItems? items = some items') :
    ∀ w ∈ items', ∃ v ∈ items, reread? v = some w := by
  induction items generalizing items' with
  | nil =>
    obtain rfl := Option.some.inj h
    exact fun _ hw => absurd hw List.not_mem_nil
  | cons item items ih =>
    simp only [rereadItems?, Option.bind_eq_bind, Option.bind_eq_some_iff, Option.pure_def, Option.some.injEq] at h
    obtain ⟨value, hv, rest, hr, rfl⟩ := h
    refine List.forall_mem_cons.2 ⟨⟨item, List.mem_cons_self, hv⟩, fun w hw => ?_⟩
    obtain ⟨v, hmem, hvw⟩ := ih hr w hw
    exact ⟨v, List.mem_cons_of_mem _ hmem, hvw⟩

theorem Fits.reread (h : Fits n v) (hw : reread? v = some w) : Fits n w := by
  induction h generalizing w with
  | null =>
    obtain rfl := Option.some.inj hw
    exact .null
  | bool b =>
    obtain rfl := Option.some.inj hw
    exact .bool b
  | number x =>
    obtain ⟨y, -, rfl⟩ := Option.map_eq_some_iff.1 hw
    exact .number y
  | string t =>
    obtain rfl := Option.some.inj hw
    exact .string t
  | array _ ih =>
    obtain ⟨items', hitems, rfl⟩ := Option.map_eq_some_iff.1 hw
    refine .array fun item hi => ?_
    obtain ⟨v, hv, hvw⟩ := mem_rereadItems? hitems item hi
    exact ih v hv hvw
  | object ho _ ih =>
    obtain ⟨members', hmembers, rfl⟩ := Option.map_eq_some_iff.1 hw
    obtain ⟨hnames, hmem⟩ := map_fst_rereadMembers? hmembers
    refine .object (by rw [IsSorted, hnames]; exact ho) fun m hm => ?_
    obtain ⟨e, he, hvw⟩ := hmem m hm
    exact ih e he hvw

/-! ## What reading gives -/

namespace Reading

/-- What is in the container so far goes into it, with `n` containers more. -/
def Frame.Fits (n : Nat) : Frame → Prop
  | .array items => ∀ item ∈ items, Json.Fits n item
  | .object members _ => MembersFit n members

def FramesFit : List Frame → Prop
  | [] => True
  | f :: frames => frames.length < depthLimit ∧ Frame.Fits (depthLimit - (frames.length + 1)) f ∧ FramesFit frames

def ExpectedFits (n : Nat) : Expected → Prop
  | .after value => Json.Fits n value
  | .name members => MembersFit n members
  | .colon members _ => MembersFit n members
  | .value | .itemOrEnd | .nameOrEnd => True

structure Sound (r : Reading) : Prop where
  frames : FramesFit r.frames
  expected : ExpectedFits (depthLimit - r.frames.length) r.expected

variable {frames : List Frame} {t : Token} {r r' : Reading}

theorem fits_closed (h : frames.length < depthLimit)
    (hv : Json.Fits (depthLimit - (frames.length + 1) + 1) v) : Json.Fits (depthLimit - frames.length) v :=
  hv.mono (by omega)

theorem sound_openFrame? {f : Frame} {expected : Expected} (h : openFrame? frames f expected = some r) (hs : FramesFit frames)
    (hf : ∀ n, Frame.Fits n f) (he : ∀ n, ExpectedFits n expected) : Sound r := by
  unfold openFrame? at h
  split at h
  · next hl =>
    obtain rfl := Option.some.inj h
    exact ⟨⟨hl, hf _, hs⟩, he _⟩
  · cases h

theorem sound_value? (h : value? frames t = some r) (hs : FramesFit frames) : Sound r := by
  cases t with
  | null => cases h; exact ⟨hs, .null⟩
  | bool b => cases h; exact ⟨hs, .bool b⟩
  | number n => cases h; exact ⟨hs, .number n⟩
  | string t => cases h; exact ⟨hs, .string t⟩
  | openArray => exact sound_openFrame? h hs (fun _ _ hm => absurd hm List.not_mem_nil) fun _ => trivial
  | openObject => exact sound_openFrame? h hs (fun _ => membersFit_nil) fun _ => trivial
  | _ => cases h

theorem sound_after? {frames : List Frame} (h : after? v frames t = some r) (hs : FramesFit frames)
    (hv : Json.Fits (depthLimit - frames.length) v) : Sound r := by
  unfold after? at h
  split at h
  · cases h
    exact ⟨⟨hs.1, List.forall_mem_cons.2 ⟨hv, hs.2.1⟩, hs.2.2⟩, trivial⟩
  · cases h
    refine ⟨hs.2.2, fits_closed hs.1 (.array fun item hi => ?_)⟩
    exact List.forall_mem_cons.2 ⟨hv, hs.2.1⟩ item (List.mem_reverse.1 hi)
  · cases h
    exact ⟨⟨hs.1, membersFit_nil, hs.2.2⟩, MembersFit.put hs.2.1 hv⟩
  · next members name _ =>
    cases h
    have hmembers : MembersFit _ (put name v members) := MembersFit.put hs.2.1 hv
    exact ⟨hs.2.2, fits_closed hs.1 (.object hmembers.sorted hmembers.fits)⟩
  · cases h

theorem Sound.step (hs : Sound r) (h : step? r t = some r') : Sound r' := by
  obtain ⟨frames, expected⟩ := r
  obtain ⟨hframes, hexpected⟩ := hs
  cases expected with
  | value => exact sound_value? h hframes
  | itemOrEnd =>
    simp only [step?] at h
    split at h
    · cases h
      exact ⟨hframes.2.2, fits_closed hframes.1 (.array fun _ hi => absurd hi List.not_mem_nil)⟩
    · exact sound_value? h hframes
  | nameOrEnd =>
    simp only [step?] at h
    split at h
    · cases h
      exact ⟨hframes.2.2, fits_closed hframes.1 (.object .nil fun _ hm => absurd hm List.not_mem_nil)⟩
    · cases h
      exact ⟨hframes, membersFit_nil⟩
    · cases h
  | name members =>
    simp only [step?] at h
    split at h
    · cases h
      exact ⟨hframes, hexpected⟩
    · cases h
  | colon members name =>
    simp only [step?] at h
    split at h
    · cases h
      exact ⟨⟨hframes.1, hexpected, hframes.2.2⟩, trivial⟩
    · cases h
  | after value => exact sound_after? h hframes hexpected

theorem Sound.run {ts : List Token} (hs : Sound r) (h : ts.foldlM step? r = some r') : Sound r' := by
  induction ts generalizing r with
  | nil =>
    obtain rfl := Option.some.inj h
    exact hs
  | cons t ts ih =>
    rw [List.foldlM_cons] at h
    obtain ⟨next, hstep, hrest⟩ := Option.bind_eq_some_iff.1 h
    exact ih (hs.step hstep) hrest

end Reading

/-- A value that has been read has its members in order, and 127 containers inside each other at most. -/
theorem fits_of_ofText? {t : Text} (h : ofText? t = some v) : Fits Reading.depthLimit v := by
  unfold ofText? at h
  obtain ⟨ts, -, h⟩ := Option.bind_eq_some_iff.1 h
  obtain ⟨r, hr, h⟩ := Option.bind_eq_some_iff.1 h
  obtain ⟨hframes, hexpected⟩ := Reading.Sound.run (r := Reading.start) ⟨trivial, trivial⟩ hr
  unfold Reading.result? at h
  split at h
  · next hf he =>
    obtain rfl := Option.some.inj h
    rw [hf, he] at hexpected
    exact hexpected
  · cases h

theorem fits_of_ofBytes? {b : Bytes} (h : ofBytes? b = some v) : Fits Reading.depthLimit v := by
  obtain ⟨t, -, ht⟩ := Option.bind_eq_some_iff.1 h
  exact fits_of_ofText? ht

/-! ## Reading the tokens of a value -/

namespace Reading

variable {us : List Token} {t : Token} {r q : Reading} {frames : List Frame}

theorem foldlM_cons (h : step? r t = some q) (ts : List Token) : (t :: ts).foldlM step? r = ts.foldlM step? q := by
  rw [List.foldlM_cons, h]
  rfl

theorem foldlM_append (h : us.foldlM step? r = some q) (ts : List Token) :
    (us ++ ts).foldlM step? r = ts.foldlM step? q := by
  rw [List.foldlM_append, h]
  rfl

/-- The tokens of a value with at most `n` containers are read as that value. -/
def Reads (n : Nat) (v : Json) : Prop :=
  ∀ frames : List Frame, frames.length + n ≤ depthLimit → (tokens v).foldlM step? ⟨frames, .value⟩ = some ⟨frames, .after v⟩

theorem Reads.inside (h : Reads n v) (f : Frame) (hn : frames.length + (n + 1) ≤ depthLimit) :
    (tokens v).foldlM step? ⟨f :: frames, .value⟩ = some ⟨f :: frames, .after v⟩ :=
  h (f :: frames) (by rw [List.length_cons]; omega)

theorem foldlM_itemOrEnd (v : Json) (frames : List Frame) :
    (tokens v).foldlM step? ⟨frames, .itemOrEnd⟩ = (tokens v).foldlM step? ⟨frames, .value⟩ := by
  cases v with
  | array items => cases items <;> rfl
  | object members => cases members <;> rfl
  | _ => rfl

theorem foldlM_itemTokens {items : List Json} (hi : ∀ item ∈ items, Reads n item)
    (hn : frames.length + (n + 1) ≤ depthLimit) (done : List Json) (v : Json) :
    (itemTokens items).foldlM step? ⟨.array done :: frames, .after v⟩ =
      some ⟨frames, .after (.array ((v :: done).reverse ++ items))⟩ := by
  induction items generalizing done v with
  | nil =>
    rw [List.append_nil]
    rfl
  | cons item items ih =>
    obtain ⟨hitem, hrest⟩ := List.forall_mem_cons.1 hi
    rw [itemTokens, List.cons_append, foldlM_cons (q := ⟨.array (v :: done) :: frames, .value⟩) rfl,
      foldlM_append (hitem.inside _ hn), ih hrest, @List.reverse_cons _ item, List.append_assoc]
    rfl

/-- A name and its value, after other members. -/
theorem foldlM_member {f : Frame} {done : List (Text × Json)} {name : Text} (hv : Reads n v)
    (hn : frames.length + (n + 1) ≤ depthLimit) (ts : List Token) :
    (.string name :: .colon :: (tokens v ++ ts)).foldlM step? ⟨f :: frames, .name done⟩ =
      ts.foldlM step? ⟨.object done name :: frames, .after v⟩ := by
  rw [foldlM_cons (q := ⟨f :: frames, .colon done name⟩) rfl, foldlM_cons (q := ⟨.object done name :: frames, .value⟩) rfl,
    foldlM_append (hv.inside _ hn)]

theorem foldlM_memberTokens {members : List (Text × Json)} (hm : ∀ m ∈ members, Reads n m.2)
    (hn : frames.length + (n + 1) ≤ depthLimit) (done : List (Text × Json)) (name : Text) (v : Json)
    (hs : IsSorted (done ++ (name, v) :: members)) :
    (memberTokens members).foldlM step? ⟨.object done name :: frames, .after v⟩ =
      some ⟨frames, .after (.object (done ++ (name, v) :: members))⟩ := by
  have hput := put_of_isSorted hs
  induction members generalizing done name v with
  | nil =>
    rw [memberTokens, foldlM_cons (q := ⟨frames, .after (.object (put name v done))⟩) rfl, hput]
    rfl
  | cons member members ih =>
    obtain ⟨other, w⟩ := member
    obtain ⟨hmember, hrest⟩ := List.forall_mem_cons.1 hm
    have hs' : IsSorted (done ++ [(name, v)] ++ (other, w) :: members) := by
      rw [List.append_assoc]
      exact hs
    have hcomma : step? ⟨.object done name :: frames, .after v⟩ .comma =
        some ⟨.object [] [] :: frames, .name (done ++ [(name, v)])⟩ := hput ▸ rfl
    rw [memberTokens, List.cons_append, List.cons_append, List.cons_append, foldlM_cons hcomma, foldlM_member hmember hn,
      ih hrest (done ++ [(name, v)]) other w hs' (put_of_isSorted hs'), List.append_assoc]
    rfl

/-- The tokens of a value in order are read as that value, where there is room for it. -/
theorem reads_of_fits (h : Fits n v) : Reads n v := by
  induction h with
  | null => exact fun _ _ => rfl
  | bool b => exact fun _ _ => rfl
  | number x => exact fun _ _ => rfl
  | string t => exact fun _ _ => rfl
  | @array n items _ ih =>
    intro frames hn
    have hroom : frames.length < depthLimit := by omega
    have hopen : step? ⟨frames, .value⟩ .openArray = some ⟨.array [] :: frames, .itemOrEnd⟩ := if_pos hroom
    cases items with
    | nil =>
      rw [tokens, foldlM_cons hopen]
      rfl
    | cons item items =>
      obtain ⟨hitem, hrest⟩ := List.forall_mem_cons.1 ih
      rw [tokens, List.cons_append, foldlM_cons hopen, foldlM_append ((foldlM_itemOrEnd item _).trans (hitem.inside _ hn)),
        foldlM_itemTokens hrest hn]
      rfl
  | @object n members ho _ ih =>
    intro frames hn
    have hroom : frames.length < depthLimit := by omega
    have hopen : step? ⟨frames, .value⟩ .openObject = some ⟨.object [] [] :: frames, .nameOrEnd⟩ := if_pos hroom
    cases members with
    | nil =>
      rw [tokens, foldlM_cons hopen]
      rfl
    | cons member members =>
      obtain ⟨name, value⟩ := member
      obtain ⟨hvalue, hrest⟩ := List.forall_mem_cons.1 ih
      -- before the first name a closing brace could stand as well
      have hfirst : (.string name :: .colon :: (tokens value ++ memberTokens members)).foldlM step?
          ⟨.object [] [] :: frames, .nameOrEnd⟩ = (memberTokens members).foldlM step? ⟨.object [] name :: frames, .after value⟩ :=
        foldlM_member hvalue hn (memberTokens members)
      rw [tokens, List.cons_append, List.cons_append, List.cons_append, foldlM_cons hopen, hfirst]
      exact foldlM_memberTokens hrest hn [] name value ho

end Reading

/-- A value in order, printed and read again, is the same but for what its numbers read as. -/
theorem ofBytes?_print (h : Fits Reading.depthLimit v) : ofBytes? (Text.utf8 v.print) = v.reread? := by
  rw [ofBytes?, Text.ofUtf8?_utf8, Option.bind_some, ofText?, tokens?_print]
  cases hw : v.reread? with
  | none => rfl
  | some w =>
    have hread := Reading.reads_of_fits (h.reread hw) [] (Nat.le_refl _)
    rw [Option.map_some]
    simp only [Option.bind_eq_bind, Option.bind_some, Reading.start, hread]
    rfl

theorem ofBytes?_print_of_isIntegral (h : Fits Reading.depthLimit v) (hi : IsIntegral v) :
    ofBytes? (Text.utf8 v.print) = some v :=
  (ofBytes?_print h).trans hi.keeps

/-! ## Blanks -/

theorem tokens?_blanks (n : Nat) : tokens? (List.replicate n ' ') = some [] := by
  unfold tokens?
  induction n with
  | zero => rfl
  | succ n ih => rw [List.replicate_succ, run?_of_silent (k := .between) rfl, ih]

theorem ofBytes?_blanks (n : Nat) : ofBytes? (List.replicate n 32) = none := by
  have hutf8 := Text.utf8_map_ofNat (b := List.replicate n 32) fun x hx => List.eq_of_mem_replicate hx ▸ by decide
  rw [List.map_replicate] at hutf8
  rw [← hutf8, ofBytes?, Text.ofUtf8?_utf8, Option.bind_some, ofText?, show Char.ofNat (32 : UInt8).toNat = ' ' by rfl,
    tokens?_blanks]
  rfl

end

end Json

end RpcGate
