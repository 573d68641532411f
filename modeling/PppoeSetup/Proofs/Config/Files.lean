import PppoeSetup.Proofs.Text.Utf8
import PppoeSetup.Workbench.Operation

/-!
# Configurations in files

What is read from a file is what its text comes to as a configuration. The bytes of the file are
decoded before anything is read, so that malformed ones are an error wherever they stand, and this
error is none of the operating system.
-/

namespace PppoeSetup.Config

open Text

lemma load_of_fromUTF8?_eq_some {contents : ByteArray} {text : String}
    (h : String.fromUTF8? contents = some text) : load contents = (Source.text text).read := by
  simp only [load, ofFile, h, Source.read]
  cases ofText text <;> rfl

lemma load_of_fromUTF8?_eq_none {contents : ByteArray} (h : String.fromUTF8? contents = none) :
    load contents = .error (.io (.other "stream did not contain valid UTF-8")) := by
  simp only [load, ofFile, h]
  rfl

/-- What is wrong with a text is an error of the configuration. -/
lemma config_of_read_text {text : String} {e : SetupError}
    (h : (Source.text text).read = .error e) : ∃ message, e = .config message := by
  simp only [Source.read] at h
  cases htext : ofText text with
  | ok c =>
    rw [htext] at h
    cases h
  | error fault =>
    rw [htext] at h
    exact ⟨fault.message, (Except.error.inj h).symm⟩

/-- The contents of a file are the encoding of exactly one text or malformed. In the first case the
file loads as this text is read, with the same configuration or the same error of the
configuration; in the second case there is an error of input and output that has no number. -/
theorem load_agrees_with_text (contents : ByteArray) :
    (∀ text : String, contents = text.toUTF8 →
      load contents = (Source.text text).read ∧
        ∀ e, load contents = .error e → ∃ message, e = .config message) ∧
    (Malformed contents.toList →
      ∃ e : IoError, load contents = .error (.io e) ∧ e.errno? = none) ∧
    (Malformed contents.toList ∨ ∃! text : String, contents = text.toUTF8) ∧
    ¬ (Malformed contents.toList ∧ ∃ text : String, contents = text.toUTF8) := by
  refine ⟨fun text htext => ?_, fun hmalformed => ?_, ?_, ?_⟩
  · have hload := load_of_fromUTF8?_eq_some (fromUTF8?_eq_some_iff.mpr htext)
    exact ⟨hload, fun e he => config_of_read_text (hload.symm.trans he)⟩
  · exact ⟨_, load_of_fromUTF8?_eq_none (fromUTF8?_eq_none_iff.mpr hmalformed), rfl⟩
  · cases htext : String.fromUTF8? contents with
    | none => exact .inl (fromUTF8?_eq_none_iff.mp htext)
    | some text =>
      refine .inr ⟨text, fromUTF8?_eq_some_iff.mp htext, fun text' htext' => ?_⟩
      rw [fromUTF8?_eq_some_iff.mpr htext'] at htext
      exact Option.some.inj htext
  · rintro ⟨hmalformed, text, htext⟩
    have hnone := fromUTF8?_eq_none_iff.mpr hmalformed
    rw [fromUTF8?_eq_some_iff.mpr htext] at hnone
    cases hnone

/-- Half of a surrogate pair in a comment, and no configuration is loaded. -/
theorem load_agrees_with_text_surrogate :
    Malformed (ByteArray.mk #[0x23, 0xED, 0xA0, 0x80, 0x0A]).toList ∧
      ∃ e : IoError, load (ByteArray.mk #[0x23, 0xED, 0xA0, 0x80, 0x0A]) = .error (.io e) ∧
        e.errno? = none := by
  have hmalformed : Malformed (ByteArray.mk #[0x23, 0xED, 0xA0, 0x80, 0x0A]).toList := by
    have hspells : Form.triple.Spells 0xED [0xA0, 0x80] 0xD800 :=
      ⟨⟨by decide, by decide⟩, by simp [Continues], rfl, by decide⟩
    rw [toList_byteArray]
    exact ⟨['#'], _, by decide, @IllFormed.surrogate _ _ _ [0x0A] _ hspells (by decide)⟩
  exact ⟨hmalformed, (load_agrees_with_text _).2.1 hmalformed⟩

end PppoeSetup.Config
