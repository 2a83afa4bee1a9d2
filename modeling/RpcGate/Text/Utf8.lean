import RpcGate.Text.Basic

/-!
# Texts as UTF-8

Every text has one encoding, and bytes decode to a text exactly when they
are the encoding of one (`ofUtf8?_eq_some_iff`).
-/

namespace RpcGate

abbrev Bytes := List UInt8

namespace Text

def utf8 (t : Text) : Bytes := t.flatMap String.utf8EncodeChar

/-- The text that `b` encodes, if there is one. -/
def ofUtf8? (b : Bytes) : Option Text := (String.fromUTF8? b.toByteArray).map String.toList

theorem utf8_append (t u : Text) : utf8 (t ++ u) = utf8 t ++ utf8 u := List.flatMap_append

theorem length_utf8_of_ascii {t : Text} (h : ∀ c ∈ t, c.val ≤ 0x7f) : (utf8 t).length = t.length := by
  induction t with
  | nil => rfl
  | cons c t ih =>
    have hc : c.utf8Size = 1 := Char.utf8Size_eq_one_iff.2 (h c List.mem_cons_self)
    have ht := ih fun d hd => h d (List.mem_cons_of_mem c hd)
    simp [utf8, hc] at ht ⊢
    omega

/-- The bytes of ASCII are characters by themselves. -/
theorem utf8_map_ofNat {b : Bytes} (h : ∀ x ∈ b, x < 128) : utf8 (b.map fun x => Char.ofNat x.toNat) = b := by
  induction b with
  | nil => rfl
  | cons x b ih =>
    have hx : x.toNat < 128 := h x List.mem_cons_self
    have hc : (Char.ofNat x.toNat).val.toNat = x.toNat := by
      rw [Char.ofNat, dif_pos (Or.inl (by omega))]
      rfl
    have hencode : String.utf8EncodeChar (Char.ofNat x.toNat) = [x] := by
      rw [String.utf8EncodeChar, hc, if_pos (by omega), UInt8.ofNat_toNat]
    have hrest := ih fun y hy => h y (List.mem_cons_of_mem x hy)
    rw [utf8, List.map_cons, List.flatMap_cons, hencode]
    exact congrArg (x :: ·) hrest

theorem toByteArray_utf8 (t : Text) : (utf8 t).toByteArray = (String.ofList t).toByteArray := by
  rw [String.toByteArray_ofList]; rfl

theorem fromUTF8?_toByteArray (s : String) : String.fromUTF8? s.toByteArray = some s := by
  unfold String.fromUTF8?
  rw [dif_pos s.isValidUTF8]
  rfl

theorem ofUtf8?_utf8 (t : Text) : ofUtf8? (utf8 t) = some t := by
  unfold ofUtf8?
  rw [toByteArray_utf8, fromUTF8?_toByteArray]
  simp

theorem ofUtf8?_eq_some_iff {b : Bytes} {t : Text} : ofUtf8? b = some t ↔ b = utf8 t := by
  constructor
  · intro h
    unfold ofUtf8? String.fromUTF8? at h
    split at h
    case isTrue hv =>
      simp only [Option.map_some, Option.some.injEq] at h
      have hb : b.toByteArray = (utf8 t).toByteArray := by
        rw [toByteArray_utf8, ← h, String.ofList_toList]; rfl
      have := congrArg (fun a => a.data.toList) hb
      simpa using this
    case isFalse => simp at h
  · rintro rfl; exact ofUtf8?_utf8 t

theorem utf8_injective {t u : Text} (h : utf8 t = utf8 u) : t = u :=
  Option.some.inj ((ofUtf8?_utf8 t).symm.trans (h ▸ ofUtf8?_utf8 u))

end Text

end RpcGate
