import Highlight.Proofs.Locating
import Highlight.Proofs.Reporting

namespace Highlight

open Document (compileText)
open Document.Compiled (ComesTo Loads)

-- The problems of a document are found at places in its text, not in any file.
theorem Document.path_of_compileText {text : String} {p : Problem}
    (h : (compileText text).result = .error p) : p.path = none := by
  have h := Logged.error?_eq_some.mpr h
  cases hd : parse text
  case error m =>
    rw [error?_compileText_of_error hd] at h
    cases h
    rfl
  case ok d =>
    rw [error?_compileText_of_ok hd] at h
    have ⟨_, _, _, _, hc, _⟩ := List.findSome?_eq_some_iff.mp h
    obtain ⟨_, _, rfl⟩ := Option.map_eq_some_iff.mp hc
    rfl

namespace Sheet

variable {fs : Files} {here place q : Location} {path : Path} {seen above : List Location}
  {p : Problem}

-- The upper file names the lower one, and every name before that has been loaded, all below the
-- files above.
def ImportsNext (fs : Files) (above : List Location) (upper lower : Location) : Prop :=
  ∃ c name, fs.Provides upper c ∧ ComesTo upper.parent (load fs (above ++ [upper])) c.imports name ∧
    '\x00' ∉ name.toList ∧ upper.parent.resolve (Path.ofText name) = lower

-- The files from one that is loaded down to one that loading comes to, in order.
structure Route (fs : Files) (place : Location) (above : List Location) (q : Location) : Prop where
  start : (above ++ [q]).head? = some place
  step : ∀ before upper lower after, above ++ [q] = before ++ upper :: lower :: after →
    ImportsNext fs before upper lower

theorem Comes.exists_chain (h : Comes fs seen place above q) :
    ∃ chain, above ++ [q] = seen ++ chain ∧ chain.head? = some place ∧
      ∀ before upper lower after, chain = before ++ upper :: lower :: after →
        ImportsNext fs (seen ++ before) upper lower := by
  induction h
  case here seen place =>
    refine ⟨[place], rfl, rfl, fun before upper lower after h => ?_⟩
    have hl := congrArg List.length h
    simp only [List.length_append, List.length_cons, List.length_nil] at hl
    omega
  case imported seen above place q c name _ hc hto hplain _ hi =>
    have ⟨chain, he, hhead, hstep⟩ := hi
    refine ⟨place :: chain, by simp [he], rfl, fun before upper lower after h => ?_⟩
    cases before
    case nil =>
      cases h
      cases hhead
      simpa using ⟨c, name, hc, hto, hplain, rfl⟩
    case cons first before =>
      cases h
      simpa using hstep before upper lower after rfl

theorem Comes.route (h : Comes fs [] place above q) : Route fs place above q := by
  obtain ⟨chain, he, hhead, hstep⟩ := h.exists_chain
  rw [List.nil_append] at he
  subst he
  exact ⟨hhead, hstep⟩

theorem Reported.path_eq (h : Reported fs seen place p) : p.path = some place.path := by
  cases h
  case circular | unreadable => rfl
  case refused h => simp [Problem.withPath, Document.path_of_compileText h]

-- A problem with a stylesheet names the first file at fault on the way: one that cannot be read,
-- one that is loaded already, or one whose text has this very problem by itself.
theorem ofFile_attributed (h : (ofFile fs here path).result = .error (.problem p)) :
    ∃ above q, p.path = some q.path ∧ Route fs (here.resolve path) above q ∧
      (load fs above q).result = .error (.problem p) ∧
      ((∃ e r, fs.readAt q = .error (.file e r)) ∨ q ∈ above ∨
        ∃ text p', fs.readAt q = .ok text ∧ (compileText text).result = .error p' ∧
          p'.kind = p.kind ∧ p'.message = p.message ∧ p'.line = p.line ∧
          p'.column = p.column) := by
  have hplain : '\x00' ∉ path.text.toList := by
    intro hn
    rw [ofFile_of_null hn] at h
    cases h
  rw [ofFile_of_plain hplain] at h
  obtain ⟨above, q, hq, hf⟩ := load_error_iff.mp h
  have hload := load_of_faulty hf
  obtain ⟨p', he, hr⟩ | hu := hf
  case inr => cases hu
  case inl =>
    cases he
    refine ⟨above, q, hr.path_eq, hq.route, hload, ?_⟩
    cases hr
    case circular hm => exact .inr (.inl hm)
    case unreadable hread => exact .inl ⟨_, _, hread⟩
    case refused hread hc => exact .inr (.inr ⟨_, _, hread, hc, rfl, rfl, rfl, rfl⟩)

end Sheet

-- What `main` imports is in order, except for what the second import imports after the first.
def Files.tainted : Files where
  entries := [
    (["main"], .file "@import \"good\"; @import \"middle\"; bold: true;".toUTF8.toList),
    (["middle"], .file "@import \"good\"; @import \"bad\"; @import \"gone\";".toUTF8.toList),
    (["good"], .file "italic: true;".toUTF8.toList),
    (["bad"], .file "\n  bold: 1;".toUTF8.toList)]

theorem Sheet.ofFile_attributed_tainted : ∃ p above q,
    (ofFile .tainted .root (Path.ofText "main")).result = .error (.problem p) ∧
    p.text = "/bad:2:3: Expected true or false for 'bold', got 1" ∧ p.path = some q.path ∧
    Route .tainted (Location.root.resolve (Path.ofText "main")) above q ∧
    (load .tainted above q).result = .error (.problem p) := by
  have hf : (Lint.file .tainted .root (Path.ofText "main") []).result.isOk = true := by
    decide +kernel
  have reported : (ofFile .tainted .root (Path.ofText "main")).error?.map LoadError.message =
      some "/bad:2:3: Expected true or false for 'bold', got 1" := by
    decide +kernel
  obtain ⟨e, he, ht⟩ := Option.map_eq_some_iff.mp reported
  rw [Logged.error?_eq_some] at he
  cases e
  case problem p =>
    obtain ⟨above, q, hq, hr, hload, -⟩ := ofFile_attributed he
    exact ⟨p, above, q, he, ht, hq, hr, hload⟩
  all_goals
    rw [Lint.result_file, he] at hf
    cases hf

end Highlight
