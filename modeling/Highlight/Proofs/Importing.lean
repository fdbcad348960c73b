import Highlight.Import
import Mathlib.Data.List.Chain
import Mathlib.Logic.Function.Iterate
import Mathlib.Logic.Relation

namespace Highlight

open Relation (ReflTransGen TransGen)

namespace Document.Checked

variable {α β : Type}

-- Only the loading of files runs in circles: no check of a single document does.
def Local (x : Checked α) : Prop :=
  ∀ p chain, x.result = .error p → p.cause ≠ .circular chain

theorem Local.pure (a : α) : Local (Pure.pure a) := by
  intro _ _ h
  cases h

theorem Local.log (e : Event) : Local (Logged.log e) := by
  intro _ _ h
  cases h

theorem Local.bind {x : Checked α} {f : α → Checked β} (hx : Local x) (hf : ∀ a, Local (f a)) :
    Local (x >>= f) := by
  intro p chain h
  rw [Logged.result_bind] at h
  cases hr : x.result
  case error e =>
    rw [hr] at h
    cases h
    exact hx _ chain hr
  case ok a =>
    rw [hr] at h
    exact hf a p chain h

theorem Local.check {ε : Type} {cause : ε → Cause} {m : Position} {r : Except ε α}
    (h : ∀ e chain, r = .error e → cause e ≠ .circular chain) :
    Local (Document.check cause m r) := by
  intro p chain hp
  cases r
  case ok => cases hp
  case error e =>
    cases hp
    exact h e chain rfl

theorem Local.located {ε : Type} {cause : ε → Cause} {m : Position} {r : Except ε α}
    (h : ∀ e chain, cause e ≠ .circular chain) : Local (Document.check cause m r) :=
  .check fun e chain _ => h e chain

theorem Local.mapM {f : α → Checked β} (h : ∀ a, Local (f a)) (l : List α) : Local (l.mapM f) := by
  induction l
  case nil => exact .pure _
  case cons a l hi =>
    rw [List.mapM_cons]
    exact (h a).bind fun _ => hi.bind fun _ => .pure _

end Document.Checked

namespace Document

open Checked

theorem applyChild_local (child : Option Position) (s : Segment) : Local (applyChild child s) := by
  cases child
  case none => exact .pure _
  case some => exact .located (by simp)

theorem compilePattern_local (m : Position) (source : String) :
    Local (compilePattern m source) := by
  rw [compilePattern]
  exact .bind (.located (by simp)) fun _ => (Local.log _).bind fun _ => .pure _

mutual

theorem Part.segment_local : ∀ p : Part Position, Local p.segment
  | .kind .. | .dotted .. | .token .. => applyChild_local _ _
  | .pattern .. => (compilePattern_local _ _).bind fun _ => applyChild_local _ _
  | .branch _ _ first rest =>
    (Part.segment_local first).bind fun _ => (segments_local rest).bind fun _ =>
      .bind (.located (by simp)) fun _ => applyChild_local _ _

theorem segments_local : ∀ ps : List (Part Position), Local (segments ps)
  | [] => .pure _
  | p :: ps => (Part.segment_local p).bind fun _ => (segments_local ps).bind fun _ => .pure _

end

theorem Chain.selector_local (c : Chain Position) : Local c.selector :=
  c.first.segment_local.bind fun _ => (segments_local c.rest).bind fun _ => .pure _

theorem readNumber_local (m : Position) (digits : List Char) : Local (readNumber m digits) := by
  rw [readNumber]
  exact .located (by simp)

theorem Value.content_local (m : Position) (v : Value) : Local (v.content m) := by
  cases v
  case string | hexColour | name => exact .pure _
  case integer => exact (readNumber_local _ _).bind fun _ => .pure _
  case rgb t =>
    rw [Value.content]
    refine (Local.mapM (readNumber_local m) _).bind fun channels => ?_
    split
    · exact .bind (.located (by simp)) fun _ => .pure _
    · exact .pure _

theorem mapError_eq_error {ε δ β : Type} {f : ε → δ} {x : Except ε β} {e : δ} :
    x.mapError f = .error e ↔ ∃ a, x = .error a ∧ e = f a := by
  cases x <;> simp [Except.mapError, eq_comm]

theorem contentColour_inversion {property : String} {content : Content} {e : Cause}
    (h : contentColour property content = .error e) :
    (∃ c, e = .colour c) ∨ ∃ x got, e = .unexpected x got := by
  cases content <;> simp only [contentColour] at h
  case colour => cases h
  case text => cases h; exact .inr ⟨_, _, rfl⟩
  case number | word | hex =>
    obtain ⟨c, -, rfl⟩ := mapError_eq_error.mp h
    exact .inl ⟨c, rfl⟩

-- What a declaration can be refused for.
theorem setup_inversion {property : String} {important : Bool} {content : Content} {e : Cause}
    (h : setup property important content = .error e) :
    (∃ c, e = .colour c) ∨ (∃ x got, e = .unexpected x got) ∨ e = .unknownProperty property := by
  unfold setup at h
  split at h
  case isTrue =>
    cases hc : contentColour property content <;> rw [hc] at h <;> cases h
    exact (contentColour_inversion hc).imp_right .inl
  split at h
  case isTrue =>
    cases hc : contentColour property content <;> rw [hc] at h <;> cases h
    exact (contentColour_inversion hc).imp_right .inl
  split at h
  case isTrue => split at h <;> cases h; exact .inr (.inl ⟨_, _, rfl⟩)
  split at h
  case h_2 => cases h; exact .inr (.inr rfl)
  split at h <;> cases h
  exact .inr (.inl ⟨_, _, rfl⟩)

theorem setup_cause {property : String} {important : Bool} {content : Content} {e : Cause}
    {chain : List Location} (h : setup property important content = .error e) :
    e ≠ .circular chain := by
  obtain ⟨_, rfl⟩ | ⟨_, _, rfl⟩ | rfl := setup_inversion h <;> simp

theorem Declaration.setup_local (d : Declaration Position) : Local d.setup := by
  rw [Declaration.setup]
  exact (d.value.content_local _).bind fun _ => .check fun _ _ => setup_cause

mutual

theorem Item.statement_local : ∀ i : Item Position, Local i.statement
  | .declaration d => d.setup_local.bind fun _ => .pure _
  | .rule first rest body =>
    first.selector_local.bind fun _ => (Local.mapM Chain.selector_local rest).bind fun _ =>
      (statements_local body).bind fun _ => .pure _

theorem statements_local : ∀ is : List (Item Position), Local (statements is)
  | [] => .pure _
  | i :: is => (Item.statement_local i).bind fun _ => (statements_local is).bind fun _ => .pure _

end

theorem TopItem.check_local (i : TopItem Position) : Local i.check := by
  cases i
  case imports => exact .pure _
  case item i => exact i.statement_local.bind fun _ => .pure _

theorem compileText_local (text : String) : Local (compileText text) := by
  rw [compileText]
  split
  case h_1 d _ => exact (Local.mapM TopItem.check_local d).bind fun _ => .pure _
  case h_2 m _ =>
    intro p chain h
    cases h
    simp [Problem.located]

end Document

-- The error says that loading ran in a circle along `chain`.
def LoadError.Circular (e : LoadError) (chain : List Location) : Prop :=
  ∃ p, e = .problem p ∧ p.cause = .circular chain

namespace Files

variable {fs : Files} {place target : Location} {c : Document.Compiled}

-- The file at a place can be read, is a text and compiles on its own.
def Provides (fs : Files) (place : Location) (c : Document.Compiled) : Prop :=
  ∃ octets text, fs.stat Location.root place.path = .ok (.file octets) ∧
    decodeText octets = .ok text ∧ (Document.compileText text).result = .ok c

-- The file at `place` imports the one at `target`; different names may well lead to one target.
def Imports (fs : Files) (place target : Location) : Prop :=
  ∃ c, fs.Provides place c ∧
    ∃ name ∈ c.imports, '\x00' ∉ name.toList ∧ place.parent.resolve (Path.ofText name) = target

-- Nothing is wrong with a file itself: it provides a document, and all its imports are names of
-- places.
def Sound (fs : Files) (place : Location) : Prop :=
  ∃ c, fs.Provides place c ∧ ∀ name ∈ c.imports, '\x00' ∉ name.toList

theorem readAt_eq_ok_iff {text : String} :
    fs.readAt place = .ok text ↔
      ∃ octets, fs.stat Location.root place.path = .ok (.file octets) ∧
        decodeText octets = .ok text := by
  rw [readAt, read]
  split
  case h_1 e h => simp [h]
  case h_2 h => simp [h]
  case h_3 octets h => cases hd : decodeText octets <;> simp [h, hd, Except.mapError]

theorem provides_iff :
    fs.Provides place c ↔
      ∃ text, fs.readAt place = .ok text ∧ (Document.compileText text).result = .ok c := by
  simp only [Provides, readAt_eq_ok_iff]
  constructor
  case mp => exact fun ⟨octets, text, hs, hd, hc⟩ => ⟨text, ⟨octets, hs, hd⟩, hc⟩
  case mpr => exact fun ⟨text, ⟨octets, hs, hd⟩, hc⟩ => ⟨octets, text, hs, hd, hc⟩

theorem Provides.unique {c₁ c₂ : Document.Compiled} (h₁ : fs.Provides place c₁)
    (h₂ : fs.Provides place c₂) : c₁ = c₂ := by
  have ⟨_, hr₁, hc₁⟩ := provides_iff.mp h₁
  have ⟨_, hr₂, hc₂⟩ := provides_iff.mp h₂
  cases hr₁.symm.trans hr₂
  cases hc₁.symm.trans hc₂
  rfl

theorem Provides.imports_iff (h : fs.Provides place c) :
    fs.Imports place target ↔
      ∃ name ∈ c.imports, '\x00' ∉ name.toList ∧
        place.parent.resolve (Path.ofText name) = target := by
  constructor
  case mp => exact fun ⟨_, hc, hn⟩ => hc.unique h ▸ hn
  case mpr => exact fun hn => ⟨c, h, hn⟩

theorem Provides.sound_iff (h : fs.Provides place c) :
    fs.Sound place ↔ ∀ name ∈ c.imports, '\x00' ∉ name.toList := by
  constructor
  case mp => exact fun ⟨_, hc, hn⟩ => hc.unique h ▸ hn
  case mpr => exact fun hn => ⟨c, h, hn⟩

-- Everything in reach of `place` is sound, is none of the files in `seen`, and is not in reach of
-- itself.
def Clear (fs : Files) (seen : List Location) (place : Location) : Prop :=
  ∀ q, ReflTransGen fs.Imports place q → fs.Sound q ∧ q ∉ seen ∧ ¬ TransGen fs.Imports q q

-- To find every circle it suffices that what is in reach of an import avoids the importing file.
theorem clear_iff {seen : List Location} :
    fs.Clear seen place ↔ place ∉ seen ∧ fs.Sound place ∧
      ∀ target, fs.Imports place target → fs.Clear (seen ++ [place]) target := by
  constructor
  case mp =>
    intro h
    have ⟨hs, hf, hc⟩ := h place .refl
    refine ⟨hf, hs, fun t ht q hq => ?_⟩
    have ⟨hs', hf', hc'⟩ := h q (.head ht hq)
    refine ⟨hs', fun hm => ?_, hc'⟩
    cases List.mem_append.mp hm
    case inl hm => exact hf' hm
    case inr hm =>
      cases List.mem_singleton.mp hm
      exact hc (.head' ht hq)
  case mpr =>
    intro ⟨hf, hs, ht⟩ q hq
    cases hq.cases_head
    case inl he =>
      subst he
      refine ⟨hs, hf, fun hc => ?_⟩
      have ⟨t, h, hq⟩ := TransGen.head'_iff.mp hc
      exact (ht t h place hq).right.left (by simp)
    case inr h =>
      have ⟨t, h, hq⟩ := h
      have ⟨hs', hf', hc⟩ := ht t h q hq
      exact ⟨hs', fun hm => hf' (List.mem_append_left _ hm), hc⟩

theorem Imports.unseen_lt {seen : List Location} (h : fs.Imports place target)
    (hf : place ∉ seen) : fs.unseen (seen ++ [place]) < fs.unseen seen := by
  have ⟨_, hp, _⟩ := h
  have ⟨_, hr, _⟩ := provides_iff.mp hp
  exact Files.unseen_lt hf hr

theorem unseen_le_length (fs : Files) (seen : List Location) :
    fs.unseen seen ≤ fs.entries.length :=
  List.countP_le_length

end Files

namespace Document.Compiled

variable {c : Compiled} {base : Location} {load : Location → Logged LoadError Sheet}
  {names : List String} {sheet : Sheet} {e : LoadError}

-- Adding one import to what has been merged so far.
def importing (base : Location) (load : Location → Logged LoadError Sheet) (sheet : Sheet)
    (name : String) : Logged LoadError Sheet := do
  if name.toList.contains '\x00' then throw .nullCharacter
  let place := base.resolve (Path.ofText name)
  Logged.log (.importing place)
  return sheet.merge (← load place)

theorem sheetWith_eq : c.sheetWith base load =
    if c.imports.isEmpty then pure c.sheet
    else do return (← c.imports.foldlM (importing base load) ∅).merge c.sheet :=
  rfl

theorem result_importing (sheet : Sheet) (name : String) :
    (importing base load sheet name).result =
      if '\x00' ∈ name.toList then .error .nullCharacter
      else (load (base.resolve (Path.ofText name))).result.map sheet.merge := by
  by_cases hn : '\x00' ∈ name.toList
  case pos => simp [importing, hn, Except.bind]
  case neg =>
    cases hl : (load (base.resolve (Path.ofText name))).result <;>
      simp [importing, hn, hl, Except.bind, Except.map, -bind_pure_comp]

-- Whether an import goes through does not depend on what was merged before it.
theorem importing_ok_iff {name : String} :
    (∃ s, (importing base load sheet name).result = .ok s) ↔
      '\x00' ∉ name.toList ∧ ∃ s, (load (base.resolve (Path.ofText name))).result = .ok s := by
  rw [result_importing]
  by_cases hn : '\x00' ∈ name.toList
  case pos => simp [hn]
  case neg =>
    cases hl : (load (base.resolve (Path.ofText name))).result <;> simp [hn, Except.map]

theorem foldlM_importing_ok_iff :
    (∃ s, (names.foldlM (importing base load) sheet).result = .ok s) ↔
      ∀ name ∈ names, '\x00' ∉ name.toList ∧
        ∃ s, (load (base.resolve (Path.ofText name))).result = .ok s := by
  induction names generalizing sheet
  case nil => simp
  case cons name names hi =>
    rw [List.foldlM_cons, Logged.result_bind, List.forall_mem_cons, ← importing_ok_iff]
    cases (importing base load sheet name).result
    case error e => simp [Except.bind]
    case ok s => simp [Except.bind, hi]

theorem sheetWith_ok_iff :
    (∃ s, (c.sheetWith base load).result = .ok s) ↔
      ∀ name ∈ c.imports, '\x00' ∉ name.toList ∧
        ∃ s, (load (base.resolve (Path.ofText name))).result = .ok s := by
  rw [← foldlM_importing_ok_iff, sheetWith_eq]
  split
  case isTrue h => simp [List.isEmpty_iff.mp h]
  case isFalse =>
    rw [Logged.result_bind]
    cases (c.imports.foldlM (importing base load) ∅).result <;> simp [Except.bind]

theorem foldlM_importing_error (h : (names.foldlM (importing base load) sheet).result = .error e) :
    e = .nullCharacter ∨ ∃ name ∈ names, '\x00' ∉ name.toList ∧
      (load (base.resolve (Path.ofText name))).result = .error e := by
  induction names generalizing sheet
  case nil => cases h
  case cons name names hi =>
    rw [List.foldlM_cons, Logged.result_bind, result_importing] at h
    split at h
    case isTrue => cases h; exact .inl rfl
    case isFalse hn =>
      cases hl : (load (base.resolve (Path.ofText name))).result <;> rw [hl] at h
      case error => cases h; exact .inr ⟨name, List.mem_cons_self, hn, hl⟩
      case ok s =>
        refine (hi h).imp_right fun ⟨name', hm, hn', hl'⟩ => ?_
        exact ⟨name', List.mem_cons_of_mem _ hm, hn', hl'⟩

theorem sheetWith_error (h : (c.sheetWith base load).result = .error e) :
    e = .nullCharacter ∨ ∃ name ∈ c.imports, '\x00' ∉ name.toList ∧
      (load (base.resolve (Path.ofText name))).result = .error e := by
  rw [sheetWith_eq] at h
  split at h
  case isTrue => cases h
  case isFalse =>
    rw [Logged.result_bind] at h
    cases hf : (c.imports.foldlM (importing base load) ∅).result <;> rw [hf] at h <;> cases h
    exact foldlM_importing_error hf

end Document.Compiled

namespace Sheet

variable {fs : Files} {seen : List Location} {place : Location}

-- One level of loading: `next` loads what the file at `place` imports.
def loadStep (fs : Files) (next : List Location → Location → Logged LoadError Sheet)
    (seen : List Location) (place : Location) : Logged LoadError Sheet :=
  if place ∈ seen then
    throw (.problem { cause := .circular (seen ++ [place]), path := some place.path })
  else match fs.readAt place with
    | .error (.file e path) =>
      throw (.problem { cause := .unreadable e path, path := some place.path })
    | .error (.notText e) => throw (.notText e)
    | .ok text => do
      let compiled ← (Document.compileText text).mapError fun p => .problem (p.withPath place.path)
      compiled.sheetWith place.parent (next (seen ++ [place]))

theorem load_eq (fs : Files) (seen : List Location) (place : Location) :
    load fs seen place = loadStep fs (load fs) seen place := by
  rw [load, loadStep]
  split
  case isTrue => rfl
  case isFalse =>
    split <;> rename_i h <;> rw [h]

-- Each level of loading adds a file to those seen, so that what stands in for the levels below is
-- never asked once there are as many levels as files.
theorem iterate_loadStep (next : List Location → Location → Logged LoadError Sheet) {n : Nat}
    (h : fs.unseen seen < n) : (loadStep fs)^[n] next seen place = load fs seen place := by
  induction n generalizing seen place
  case zero => omega
  case succ n hi =>
    rw [Function.iterate_succ_apply', load_eq, loadStep, loadStep]
    split
    case isTrue => rfl
    case isFalse hf =>
      split <;> try rfl
      case h_3 text hr =>
        have hn : fs.unseen (seen ++ [place]) < n := by
          have := Files.unseen_lt hf hr
          omega
        have he : (loadStep fs)^[n] next (seen ++ [place]) = load fs (seen ++ [place]) :=
          funext fun _ => hi hn
        rw [he]

theorem load_of_mem (h : place ∈ seen) : (load fs seen place).result =
    .error (.problem { cause := .circular (seen ++ [place]), path := some place.path }) := by
  rw [load_eq, loadStep, if_pos h]
  rfl

theorem load_of_provides {c : Document.Compiled} (hf : place ∉ seen) (hp : fs.Provides place c) :
    (load fs seen place).result =
      (c.sheetWith place.parent (load fs (seen ++ [place]))).result := by
  have ⟨text, hr, hc⟩ := Files.provides_iff.mp hp
  rw [load_eq, loadStep, if_neg hf, hr]
  simp [Logged.mapError, hc, Except.mapError, Except.bind]

-- A file that provides no document is reported for what it is, not for what it may import.
theorem load_of_not_provides (hf : place ∉ seen) (hp : ∀ c, ¬ fs.Provides place c) :
    ∃ e, (load fs seen place).result = .error e ∧ ∀ chain, ¬ e.Circular chain := by
  rw [load_eq, loadStep, if_neg hf]
  cases hr : fs.readAt place
  case error e =>
    cases e
    case file e path =>
      refine ⟨_, rfl, fun chain ⟨p, he, hc⟩ => ?_⟩
      cases he
      cases hc
    case notText e => exact ⟨_, rfl, fun chain ⟨p, he, _⟩ => nomatch he⟩
  case ok text =>
    cases hc : (Document.compileText text).result
    case ok c => exact absurd (Files.provides_iff.mpr ⟨text, hr, hc⟩) (hp c)
    case error p =>
      refine ⟨.problem (p.withPath place.path), ?_, fun chain ⟨_, he, hq⟩ => ?_⟩
      case refine_1 => simp [Logged.mapError, hc, Except.mapError, Except.bind]
      case refine_2 =>
        cases he
        exact Document.compileText_local text p chain hc hq

theorem load_ok_iff_imports :
    (∃ s, (load fs seen place).result = .ok s) ↔
      place ∉ seen ∧ fs.Sound place ∧
        ∀ target, fs.Imports place target →
          ∃ s, (load fs (seen ++ [place]) target).result = .ok s := by
  by_cases hf : place ∈ seen
  case pos => simp [load_of_mem hf, hf]
  case neg =>
    by_cases hp : ∃ c, fs.Provides place c
    case pos =>
      have ⟨c, hp⟩ := hp
      rw [load_of_provides hf hp, Document.Compiled.sheetWith_ok_iff, hp.sound_iff]
      simp only [hp.imports_iff]
      constructor
      case mp =>
        intro h
        refine ⟨hf, fun name hm => (h name hm).left, fun target ⟨name, hm, _, ht⟩ => ?_⟩
        exact ht ▸ (h name hm).right
      case mpr =>
        intro ⟨_, hn, ht⟩ name hm
        exact ⟨hn name hm, ht _ ⟨name, hm, hn name hm, rfl⟩⟩
    case neg =>
      push Not at hp
      have ⟨e, he, _⟩ := load_of_not_provides hf hp
      constructor
      case mp => exact fun ⟨s, hs⟩ => nomatch he.symm.trans hs
      case mpr => exact fun ⟨_, ⟨c, hc, _⟩, _⟩ => absurd hc (hp c)

-- Loading a file and the graph of imports go down by the same steps; the induction is on the number
-- of files left to see.
theorem load_ok_iff :
    (∃ s, (load fs seen place).result = .ok s) ↔ fs.Clear seen place := by
  induction hn : fs.unseen seen using Nat.strong_induction_on generalizing seen place
  case _ n hi =>
    subst hn
    rw [load_ok_iff_imports, Files.clear_iff]
    refine and_congr_right fun hf => and_congr_right fun _ => forall₂_congr fun target ht => ?_
    exact hi _ (ht.unseen_lt hf) rfl

-- The chain of a circle starts with the files above, and each step from the current file on is an
-- import.
theorem circular_of_load {e : LoadError} {chain : List Location}
    (h : (load fs seen place).result = .error e) (hc : e.Circular chain) :
    ∃ more, chain = seen ++ place :: more ∧ (place :: more).IsChain fs.Imports ∧
      ∃ again ∈ chain.dropLast, chain.getLast? = some again := by
  induction hn : fs.unseen seen using Nat.strong_induction_on generalizing seen place
  case _ n hi =>
    subst hn
    by_cases hf : place ∈ seen
    case pos =>
      rw [load_of_mem hf] at h
      have ⟨p, hp, hc⟩ := hc
      cases h
      cases hp
      cases hc
      exact ⟨[], rfl, .singleton _, place, by simpa using hf, by simp⟩
    by_cases hp : ∃ c, fs.Provides place c
    case neg =>
      push Not at hp
      have ⟨e', he', hc'⟩ := load_of_not_provides hf hp
      cases he'.symm.trans h
      exact absurd hc (hc' chain)
    case pos =>
      have ⟨c, hp⟩ := hp
      rw [load_of_provides hf hp] at h
      cases Document.Compiled.sheetWith_error h
      case inl he =>
        have ⟨p, hp, _⟩ := hc
        cases he.symm.trans hp
      case inr he =>
        have ⟨name, hm, hn, hl⟩ := he
        have ht : fs.Imports place (place.parent.resolve (Path.ofText name)) :=
          ⟨c, hp, name, hm, hn, rfl⟩
        have ⟨more, hchain, hsteps, hagain⟩ := hi _ (ht.unseen_lt hf) hl rfl
        exact ⟨_ :: more, by simpa using hchain, hsteps.cons_cons ht, hagain⟩

theorem ofFile_of_null {here : Location} {path : Path} (h : '\x00' ∈ path.text.toList) :
    (ofFile fs here path).result = .error .nullCharacter := by
  simp [ofFile, h, Except.bind]

theorem ofFile_of_plain {here : Location} {path : Path} (h : '\x00' ∉ path.text.toList) :
    (ofFile fs here path).result = (load fs [] (here.resolve path)).result := by
  simp [ofFile, h, Except.bind]

-- More levels of loading than there are files leave nothing to be asked of the levels below, so
-- loading ends. A file that is imported from several sides is no obstacle to it: only being in
-- reach of itself is.
theorem ofFile_follows_imports (fs : Files) (here : Location) (path : Path) :
    let place := here.resolve path
    (∀ next n, fs.entries.length < n → (loadStep fs)^[n] next [] place = load fs [] place) ∧
    ((∃ s, (ofFile fs here path).result = .ok s) ↔
      '\x00' ∉ path.text.toList ∧ ∀ q, ReflTransGen fs.Imports place q →
        fs.Sound q ∧ ¬ TransGen fs.Imports q q) ∧
    ∀ e chain, (ofFile fs here path).result = .error e → e.Circular chain →
      chain.head? = some place ∧ chain.IsChain fs.Imports ∧
        ∃ again ∈ chain.dropLast, chain.getLast? = some again := by
  refine ⟨fun next n hn => ?_, ?_⟩
  case refine_1 => exact iterate_loadStep next <| (fs.unseen_le_length []).trans_lt hn
  by_cases hp : '\x00' ∈ path.text.toList
  case pos =>
    rw [ofFile_of_null hp]
    refine ⟨by simp [hp], fun e chain he ⟨p, hc, _⟩ => ?_⟩
    cases he
    cases hc
  case neg =>
    rw [ofFile_of_plain hp, load_ok_iff]
    refine ⟨by simp [hp, Files.Clear], fun e chain he hc => ?_⟩
    have ⟨more, hchain, hsteps, hagain⟩ := circular_of_load he hc
    exact ⟨by simp [hchain], hchain ▸ hsteps, hagain⟩

end Sheet

-- One file is imported from two others, under two names.
def Files.diamond : Files where
  entries := [
    (["main"], .file "@import \"left\"; @import \"right\";".toUTF8.toList),
    (["left"], .file "@import \"base\";".toUTF8.toList),
    (["right"], .file "@import \"./base\";".toUTF8.toList),
    (["base"], .file "word { bold: true; }".toUTF8.toList)]

theorem Sheet.ofFile_follows_imports_diamond :
    (∃ s, (ofFile .diamond .root (Path.ofText "main")).result = .ok s) ∧
    ∀ q, ReflTransGen Files.diamond.Imports (Location.root.resolve (Path.ofText "main")) q →
      Files.diamond.Sound q ∧ ¬ TransGen Files.diamond.Imports q q := by
  have h : ∃ s, (ofFile .diamond .root (Path.ofText "main")).result = .ok s := by
    have : (ofFile .diamond .root (Path.ofText "main")).result.isOk = true := by decide +kernel
    cases hr : (ofFile .diamond .root (Path.ofText "main")).result
    case ok s => exact ⟨s, rfl⟩
    case error => rw [hr] at this; cases this
  exact ⟨h, ((ofFile_follows_imports _ _ _).right.left.mp h).right⟩

end Highlight
