import Highlight.Lint
import Highlight.Proofs.Expansion

namespace Highlight

open Relation (ReflTransGen)

namespace Document.Compiled

variable {c : Compiled} {base : Location} {load : Location → Logged LoadError Sheet}
  {name : String} {names : List String} {s : Sheet} {e : LoadError}

-- The name leads to no sheet, for the given reason.
def Fails (base : Location) (load : Location → Logged LoadError Sheet) (name : String)
    (e : LoadError) : Prop :=
  ('\x00' ∈ name.toList ∧ e = .nullCharacter) ∨
    ('\x00' ∉ name.toList ∧ (load (base.resolve (Path.ofText name))).result = .error e)

-- Loading comes to a name when all names before it have been loaded.
def ComesTo (base : Location) (load : Location → Logged LoadError Sheet) (names : List String)
    (name : String) : Prop :=
  ∃ before after, names = before ++ name :: after ∧
    ∀ earlier ∈ before, ∃ t, Loads base load earlier t

theorem importing_eq_error :
    (importing base load s name).result = .error e ↔ Fails base load name e := by
  rw [result_importing]
  by_cases hn : '\x00' ∈ name.toList
  case pos => simp [Fails, hn, eq_comm]
  case neg =>
    cases hl : (load (base.resolve (Path.ofText name))).result <;>
      simp [Fails, hn, hl, Except.map]

theorem foldlM_importing_eq_error :
    (names.foldlM (importing base load) s).result = .error e ↔
      ∃ name, ComesTo base load names name ∧ Fails base load name e := by
  induction names generalizing s
  case nil => simp [ComesTo]
  case cons name names hi =>
    rw [List.foldlM_cons, Logged.result_bind]
    cases hr : (importing base load s name).result
    case error e' =>
      constructor
      case mp =>
        intro h
        cases h
        exact ⟨name, ⟨[], names, rfl, by simp⟩, importing_eq_error.mp hr⟩
      case mpr =>
        rintro ⟨other, ⟨before, after, hn, hb⟩, hf⟩
        cases before
        case nil =>
          cases hn
          exact hr.symm.trans (importing_eq_error.mpr hf)
        case cons =>
          cases hn
          have ⟨t, ht⟩ := hb _ List.mem_cons_self
          cases hr.symm.trans (importing_eq_ok.mpr ⟨t, ht, rfl⟩)
    case ok u =>
      have ⟨t, ht, _⟩ := importing_eq_ok.mp hr
      show (names.foldlM (importing base load) u).result = .error e ↔ _
      rw [hi]
      constructor
      case mp =>
        rintro ⟨other, ⟨before, after, hn, hb⟩, hf⟩
        refine ⟨other, ⟨name :: before, after, by rw [hn]; rfl, ?_⟩, hf⟩
        exact List.forall_mem_cons.mpr ⟨⟨t, ht⟩, hb⟩
      case mpr =>
        rintro ⟨other, ⟨before, after, hn, hb⟩, hf⟩
        cases before
        case nil =>
          cases hn
          cases hr.symm.trans (importing_eq_error.mpr hf)
        case cons =>
          cases hn
          exact ⟨other, ⟨_, after, rfl, (List.forall_mem_cons.mp hb).right⟩, hf⟩

theorem sheetWith_eq_error (hc : c.sheet.Ordered) :
    (c.sheetWith base load).result = .error e ↔
      ∃ name, ComesTo base load c.imports name ∧ Fails base load name e := by
  rw [result_sheetWith hc, ← foldlM_importing_eq_error]
  cases (c.imports.foldlM (importing base load) ∅).result <;> simp [Except.map]

end Document.Compiled

open Document.Compiled (ComesTo Fails)

namespace Files

variable {fs : Files} {place : Location}

theorem readAt_eq_notText_iff {e : Text.Utf8.Error} :
    fs.readAt place = .error (.notText e) ↔
      ∃ octets, fs.stat Location.root place.path = .ok (.file octets) ∧
        decodeText octets = .error e := by
  rw [readAt, read]
  split
  case h_1 e h => simp [h]
  case h_2 h => simp [h]
  case h_3 octets h => cases hd : decodeText octets <;> simp [h, hd, Except.mapError]

end Files

namespace Sheet

variable {fs : Files} {seen seen' : List Location} {place q : Location} {e : LoadError}

-- Loading a file comes to another one, with the files above each, outermost first.
inductive Comes (fs : Files) : List Location → Location → List Location → Location → Prop
  | here {seen : List Location} {place : Location} : Comes fs seen place seen place
  | imported {seen seen' : List Location} {place q : Location} {c : Document.Compiled}
    {name : String} :
    place ∉ seen → fs.Provides place c →
    ComesTo place.parent (load fs (seen ++ [place])) c.imports name → '\x00' ∉ name.toList →
    Comes fs (seen ++ [place]) (place.parent.resolve (Path.ofText name)) seen' q →
    Comes fs seen place seen' q

-- What is wrong with the stylesheet in a file.
inductive Reported (fs : Files) (seen : List Location) (place : Location) : Problem → Prop
  | circular (h : place ∈ seen) :
    Reported fs seen place { cause := .circular (seen ++ [place]), path := some place.path }
  | unreadable {e : FileError} {path : Path} (hf : place ∉ seen)
    (h : fs.readAt place = .error (.file e path)) :
    Reported fs seen place { cause := .unreadable e path, path := some place.path }
  | refused {text : String} {p : Problem} (hf : place ∉ seen) (hr : fs.readAt place = .ok text)
    (h : (Document.compileText text).result = .error p) :
    Reported fs seen place (p.withPath place.path)

-- What is wrong with a file so that there is no stylesheet in it.
inductive Unreported (fs : Files) (seen : List Location) (place : Location) : LoadError → Prop
  | notText {octets : List UInt8} {e : Text.Utf8.Error} (hf : place ∉ seen)
    (hs : fs.stat Location.root place.path = .ok (.file octets))
    (h : Files.decodeText octets = .error e) : Unreported fs seen place (.notText e)
  | nullCharacter {c : Document.Compiled} {name : String} (hf : place ∉ seen)
    (hc : fs.Provides place c)
    (hn : ComesTo place.parent (load fs (seen ++ [place])) c.imports name)
    (h : '\x00' ∈ name.toList) : Unreported fs seen place .nullCharacter

-- A fault of the file itself.
def Faulty (fs : Files) (seen : List Location) (place : Location) (e : LoadError) : Prop :=
  (∃ p, e = .problem p ∧ Reported fs seen place p) ∨ Unreported fs seen place e

theorem load_eq_error (hf : place ∉ seen) {c : Document.Compiled} (hc : fs.Provides place c) :
    (load fs seen place).result = .error e ↔
      ∃ name, ComesTo place.parent (load fs (seen ++ [place])) c.imports name ∧
        Fails place.parent (load fs (seen ++ [place])) name e := by
  have ⟨d, _, hd⟩ := Files.provides_iff_holds.mp hc
  rw [load_of_provides hf hc,
    Document.Compiled.sheetWith_eq_error (Document.ordered_of_compile hd)]

theorem load_of_faulty (h : Faulty fs seen place e) : (load fs seen place).result = .error e := by
  obtain ⟨p, rfl, h⟩ | h := h
  · cases h
    case circular h => exact load_of_mem h
    case unreadable hf h =>
      rw [load_eq, loadStep, if_neg hf, h]
      rfl
    case refused hf hr h =>
      rw [load_eq, loadStep, if_neg hf, hr]
      simp [Logged.mapError, h, Except.mapError, Except.bind]
  · cases h
    case notText hf hs h =>
      rw [load_eq, loadStep, if_neg hf, Files.readAt_eq_notText_iff.mpr ⟨_, hs, h⟩]
      rfl
    case nullCharacter name hf hc hn h =>
      exact (load_eq_error hf hc).mpr ⟨name, hn, .inl ⟨h, rfl⟩⟩

-- The step of a failure: the file itself is at fault, or one of its imports fails.
theorem faulty_of_load (h : (load fs seen place).result = .error e) :
    Faulty fs seen place e ∨ ∃ c name, place ∉ seen ∧ fs.Provides place c ∧
      ComesTo place.parent (load fs (seen ++ [place])) c.imports name ∧ '\x00' ∉ name.toList ∧
      (load fs (seen ++ [place]) (place.parent.resolve (Path.ofText name))).result = .error e := by
  -- Loading fails in one way at most.
  have own {e' : LoadError} (hf : Faulty fs seen place e') : Faulty fs seen place e := by
    cases (load_of_faulty hf).symm.trans h
    exact hf
  by_cases hf : place ∈ seen
  case pos => exact .inl (own (.inl ⟨_, rfl, .circular hf⟩))
  cases hr : fs.readAt place
  case error r =>
    cases r
    case file => exact .inl (own (.inl ⟨_, rfl, .unreadable hf hr⟩))
    case notText =>
      have ⟨_, hs, hd⟩ := Files.readAt_eq_notText_iff.mp hr
      exact .inl (own (.inr (.notText hf hs hd)))
  case ok text =>
    cases hc : (Document.compileText text).result
    case error p => exact .inl (own (.inl ⟨_, rfl, .refused hf hr hc⟩))
    case ok c =>
      have hc := Files.provides_iff.mpr ⟨text, hr, hc⟩
      obtain ⟨name, hn, ⟨hnull, rfl⟩ | ⟨hplain, hl⟩⟩ := (load_eq_error hf hc).mp h
      · exact .inl (.inr (.nullCharacter hf hc hn hnull))
      · exact .inr ⟨c, name, hf, hc, hn, hplain, hl⟩

-- The run of a failure: the induction is on the number of files left to see.
theorem load_error_iff : (load fs seen place).result = .error e ↔
    ∃ seen' q, Comes fs seen place seen' q ∧ Faulty fs seen' q e := by
  constructor
  case mp =>
    intro h
    induction hn : fs.unseen seen using Nat.strong_induction_on generalizing seen place
    case _ n hi =>
      subst hn
      obtain hf | ⟨c, name, hf, hc, hto, hplain, hl⟩ := faulty_of_load h
      · exact ⟨seen, place, .here, hf⟩
      · have ⟨text, hr, _⟩ := Files.provides_iff.mp hc
        have ⟨seen', q, hq, he⟩ := hi _ (Files.unseen_lt hf hr) hl rfl
        exact ⟨seen', q, .imported hf hc hto hplain hq, he⟩
  case mpr =>
    rintro ⟨seen', q, hq, he⟩
    induction hq
    case here => exact load_of_faulty he
    case imported hf hc hto hplain _ hi =>
      exact (load_eq_error hf hc).mpr ⟨_, hto, .inr ⟨hplain, hi he⟩⟩

theorem Comes.reach (h : Comes fs seen place seen' q) : ReflTransGen fs.Imports place q := by
  induction h
  case here => exact .refl
  case imported c name _ hc hto hplain _ hi =>
    have ⟨before, after, hn, _⟩ := hto
    exact .head ⟨c, hc, name, by simp [hn], hplain, rfl⟩ hi

end Sheet

namespace Lint

variable {fs : Files} {here : Location} {path : Path} {further : List Rule} {e : LoadError}

-- The problem of a stylesheet is handled, and nothing else is.
theorem result_file : (file fs here path further).result =
    match (Sheet.ofFile fs here path).result with
    | .ok s => .ok (findings s further)
    | .error (.problem p) => .ok [ofProblem p]
    | .error e => .error e := by
  unfold file
  simp only [tryCatch, tryCatchThe, MonadExceptOf.tryCatch, Logged.result_bind]
  cases h : (Sheet.ofFile fs here path).result
  case ok => rfl
  case error e => cases e <;> rfl

theorem isError_of_mem_findings {s : Sheet} {d : Diagnostic} (h : d ∈ findings s []) :
    d.isError = false := by
  simp only [findings, rules, List.append_nil, List.flatMap_cons, List.flatMap_nil,
    List.mem_append] at h
  cases h
  case inl h =>
    have ⟨⟨selector, node⟩, _, h⟩ := List.mem_flatMap.mp h
    dsimp only at h
    split at h
    case h_2 => cases h
    case h_1 =>
      split at h
      case isFalse => cases h
      case isTrue =>
        have ⟨_, _, he⟩ := List.mem_map.mp h
        rw [← he]
        rfl
  case inr h =>
    have ⟨⟨selector, node⟩, _, h⟩ := List.mem_filterMap.mp h
    dsimp only at h
    split at h <;> cases h
    rfl

theorem file_eq_error : (file fs here path further).result = .error e ↔
    (Sheet.ofFile fs here path).result = .error e ∧ ∀ p, e ≠ .problem p := by
  rw [result_file]
  cases (Sheet.ofFile fs here path).result
  case ok => simp
  case error e' =>
    cases e'
    case problem p =>
      simp only [reduceCtorEq, Except.error.injEq, false_iff, not_and, not_forall]
      exact fun h => ⟨p, not_not_intro h.symm⟩
    all_goals
      simp only [Except.error.injEq, iff_self_and]
      rintro rfl
      simp

-- What is not reported is a null character in the path, or a fault of the first file with one that
-- loading comes to.
theorem file_eq_error_iff : (file fs here path further).result = .error e ↔
    ('\x00' ∈ path.text.toList ∧ e = .nullCharacter) ∨
    ('\x00' ∉ path.text.toList ∧ ∃ seen q, Sheet.Comes fs [] (here.resolve path) seen q ∧
      Sheet.Unreported fs seen q e) := by
  rw [file_eq_error]
  by_cases hp : '\x00' ∈ path.text.toList
  case pos =>
    rw [Sheet.ofFile_of_null hp]
    simp only [Except.error.injEq, hp, true_and, not_true_eq_false, false_and, or_false]
    constructor
    case mp => exact fun h => h.left.symm
    case mpr =>
      rintro rfl
      simp
  case neg =>
    rw [Sheet.ofFile_of_plain hp, Sheet.load_error_iff]
    simp only [hp, false_and, not_false_eq_true, true_and, false_or]
    constructor
    case mp =>
      rintro ⟨⟨seen, q, hq, ⟨p, he, _⟩ | hu⟩, hn⟩
      · exact absurd he (hn p)
      · exact ⟨seen, q, hq, hu⟩
    case mpr =>
      rintro ⟨seen, q, hq, hu⟩
      refine ⟨⟨seen, q, hq, .inr hu⟩, fun p he => ?_⟩
      subst he
      cases hu

-- A stylesheet that loads has its findings, none of which is an error; one with a problem has an
-- error as its only finding. There are no findings only if there is a null character in the path or
-- in a name that is imported, or a file that is no text: precisely if loading comes to it. Where
-- nothing of the kind is in reach there always are findings.
theorem file_reports (fs : Files) (here : Location) (path : Path) (further : List Rule) :
    (∀ s, (Sheet.ofFile fs here path).result = .ok s →
      (file fs here path further).result = .ok (findings s further) ∧
      ∀ d ∈ findings s [], d.isError = false) ∧
    (∀ p, (Sheet.ofFile fs here path).result = .error (.problem p) →
      (file fs here path further).result = .ok [ofProblem p] ∧ (ofProblem p).isError = true) ∧
    (∀ e, (file fs here path further).result = .error e ↔
      (Sheet.ofFile fs here path).result = .error e ∧ ∀ p, e ≠ .problem p) ∧
    (∀ e, (file fs here path further).result = .error e ↔
      ('\x00' ∈ path.text.toList ∧ e = .nullCharacter) ∨
      ('\x00' ∉ path.text.toList ∧ ∃ seen q, Sheet.Comes fs [] (here.resolve path) seen q ∧
        Sheet.Unreported fs seen q e)) ∧
    ('\x00' ∉ path.text.toList →
      (∀ q, ReflTransGen fs.Imports (here.resolve path) q →
        (∀ octets, fs.stat Location.root q.path = .ok (.file octets) →
          ∃ text, Files.decodeText octets = .ok text) ∧
        ∀ c, fs.Provides q c → ∀ name ∈ c.imports, '\x00' ∉ name.toList) →
      ∃ ds, (file fs here path further).result = .ok ds) := by
  refine ⟨fun s h => ?_, fun p h => ?_, fun e => file_eq_error, fun e => file_eq_error_iff,
    fun hp hq => ?_⟩
  case refine_1 => exact ⟨by rw [result_file, h], fun d => isError_of_mem_findings⟩
  case refine_2 => exact ⟨by rw [result_file, h], rfl⟩
  case refine_3 =>
    cases hr : (file fs here path further).result
    case ok ds => exact ⟨ds, rfl⟩
    case error e =>
      obtain ⟨hnull, _⟩ | ⟨_, seen, q, hcomes, hu⟩ := file_eq_error_iff.mp hr
      · exact absurd hnull hp
      have ⟨htext, hnames⟩ := hq q hcomes.reach
      cases hu
      case notText octets _ _ hs hd =>
        have ⟨text, ht⟩ := htext octets hs
        cases ht.symm.trans hd
      case nullCharacter c name _ hc hn hnull =>
        have ⟨before, after, hi, _⟩ := hn
        exact absurd hnull (hnames c hc name (by simp [hi]))

end Lint

-- A file imports another one that is not there.
def Files.dangling : Files where
  entries := [(["main"], .file "@import \"gone\";".toUTF8.toList)]

theorem Lint.file_reports_dangling : ∃ p,
    (Sheet.ofFile .dangling .root (Path.ofText "main")).result = .error (.problem p) ∧
    (file .dangling .root (Path.ofText "main") []).result = .ok [ofProblem p] ∧
    (ofProblem p).isError = true := by
  have hl : (Sheet.ofFile .dangling .root (Path.ofText "main")).result.isOk = false := by
    decide +kernel
  have hf : (file .dangling .root (Path.ofText "main") []).result.isOk = true := by
    decide +kernel
  cases hr : (Sheet.ofFile .dangling .root (Path.ofText "main")).result
  case ok => rw [hr] at hl; cases hl
  case error e =>
    cases e
    case problem p =>
      have ⟨_, reported, _⟩ := file_reports .dangling .root (Path.ofText "main") []
      exact ⟨p, rfl, reported p hr⟩
    all_goals
      rw [result_file, hr] at hf
      cases hf

-- A file of one octet that begins no character.
def Files.garbled : Files where
  entries := [(["main"], .file [0xff])]

theorem Lint.file_of_garbled :
    (∀ s, (Sheet.ofFile .garbled .root (Path.ofText "main")).result ≠ .ok s) ∧
    ∀ ds, (file .garbled .root (Path.ofText "main") []).result ≠ .ok ds := by
  have h : (file .garbled .root (Path.ofText "main") []).result.isOk = false := by
    decide +kernel
  cases hr : (file .garbled .root (Path.ofText "main") []).result
  case ok => rw [hr] at h; cases h
  case error e =>
    refine ⟨fun s hs => ?_, by simp⟩
    cases (file_eq_error.mp hr).left.symm.trans hs

end Highlight
