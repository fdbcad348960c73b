import Highlight.CommandLine.Run
import Highlight.Proofs.Coverage

namespace Highlight

namespace CommandLine

variable {Parser : Type} {host : Host Parser} {r : CatRequest}

namespace Options

variable {α : Type} {o : Options α} {given : List (Given α)} {next : Option String} {used : Bool}

-- A value is taken from the next argument only if it is used up.
theorem fromNext_eq_ok {a : α} {name : String} (h : fromNext a name next = .ok (given, used)) :
    used ∧ next.isSome := by
  cases next
  case none => cases h
  case some => cases h; exact ⟨rfl, rfl⟩

theorem readLetters_eq_ok {cs : List Char} (h : o.readLetters next cs = .ok (given, used)) :
    used ∧ next.isSome ∨ ¬used ∧ ∀ next', o.readLetters next' cs = .ok (given, used) := by
  induction cs generalizing given
  case nil => cases h; exact .inr ⟨nofun, fun _ => rfl⟩
  case cons c cs hi =>
    simp only [readLetters] at h ⊢
    split at h
    case h_1 => cases h
    case h_2 a ha =>
      split at h
      case isTrue ht =>
        split at h
        case isTrue he  => exact .inl (fromNext_eq_ok h)
        case isFalse he => cases h; exact .inr ⟨nofun, fun _ => by simp [ht, he]⟩
      case isFalse ht =>
        obtain ⟨⟨more, used'⟩, hm, h⟩ := bind_eq_ok.mp h
        cases h
        refine (hi hm).imp_right fun ⟨hu, h⟩ => ⟨hu, fun next' => ?_⟩
        rw [if_neg ht, h next']
        rfl

theorem readArgument_eq_ok {arg : String} (h : o.readArgument arg next = .ok (given, used)) :
    used ∧ next.isSome ∨ ¬used ∧ ∀ next', o.readArgument arg next' = .ok (given, used) := by
  simp only [readArgument] at h ⊢
  generalize arg.toList = cs at h ⊢
  split at h
  case h_1 =>
    split at h
    case h_2 => cases h
    case h_1 a hf =>
      unfold readLong at h ⊢
      split at h
      case isFalse ht =>
        split at h
        case h_1 => cases h
        case h_2 hv => cases h; exact .inr ⟨nofun, fun _ => by simp [ht]⟩
      case isTrue ht =>
        split at h
        case h_1 hv => cases h; exact .inr ⟨nofun, fun _ => by simp [ht]⟩
        case h_2    => exact .inl (fromNext_eq_ok h)
  case h_2 => exact readLetters_eq_ok h
  case h_3 => cases h; exact .inr ⟨nofun, fun _ => rfl⟩

theorem read_option {arg : String} (hd : arg ≠ "--") (ho : isOption arg) (rest : List String)
    (ha : o.readArgument arg rest.head? = .ok (given, used)) {more : List (Given α)}
    {files : List String}
    (hr : o.read true (if used then rest.tail else rest) = .ok (more, files)) :
    o.read true (arg :: rest) = .ok (given ++ more, files) := by
  rw [read, if_neg hd, if_pos ho, ha]
  simp [bind, Except.bind, hr, pure, Except.pure]

-- The same options can be given with any other files.
theorem exists_read {args files : List String} (h : o.read true args = .ok (given, files)) :
    ∃ before, ∀ rest, o.read true (before ++ "--" :: rest) = .ok (given, rest) := by
  have none_given (rest : List String) : o.read true ("--" :: rest) = .ok ([], rest) := by
    rw [read, if_pos rfl]
  fun_induction read o true args generalizing given files
  case case1 => cases h; exact ⟨[], none_given⟩
  case case2 => cases h; exact ⟨[], none_given⟩
  case case3 arg rest hd ho hi =>
    obtain ⟨⟨first, used⟩, ha, h⟩ := bind_eq_ok.mp h
    obtain ⟨⟨more, others⟩, hr, h⟩ := bind_eq_ok.mp h
    cases h
    obtain ⟨before, hb⟩ := hi used hr
    obtain ⟨hu, hn⟩ | ⟨hu, hn⟩ := readArgument_eq_ok ha
    · -- The next argument is the value of the option and stays with it.
      obtain ⟨v, hv⟩ := Option.isSome_iff_exists.mp hn
      refine ⟨arg :: v :: before, fun rest' => read_option hd ho _ (hv ▸ ha) ?_⟩
      rw [if_pos hu]
      exact hb rest'
    · refine ⟨arg :: before, fun rest' => read_option hd ho _ (hn _) ?_⟩
      rw [if_neg hu]
      exact hb rest'
  case case4 arg rest hd ho _ hi =>
    obtain ⟨⟨more, others⟩, hr, h⟩ := bind_eq_ok.mp h
    cases h
    exact hi hr
  case case5 h' => exact absurd rfl h'

end Options

-- The arguments ask for files to be printed with some options.
structure Asks (host : Host Parser) (args : List String) (given : List (Given CatOption))
    (files : List String) (r : CatRequest) : Prop where
  read : catOptions.read true args = .ok (given, files)
  noHelp : ¬given.any (·.option = .help)
  request : catRequest host given files = .ok r

theorem forM_eq_ok {ε β : Type} {f : β → Except ε Unit} {l : List β} {u : Unit} :
    l.forM f = .ok u ↔ ∀ a ∈ l, f a = .ok () := by
  induction l
  case nil => simp [pure, Except.pure]
  case cons a l hi =>
    show (f a >>= fun _ => l.forM f) = .ok u ↔ _
    rw [bind_eq_ok, List.forall_mem_cons, ← hi]
    exact ⟨fun ⟨_, ha, hl⟩ => ⟨ha, hl⟩, fun ⟨ha, hl⟩ => ⟨(), ha, hl⟩⟩

theorem catRequest_alone {given : List (Given CatOption)} {files : List String}
    (h : catRequest host given files = .ok r) :
    r.files = files ∧ files ≠ [] ∧
      ∀ f ∈ files, catRequest host given [f] = .ok { r with files := [f] } := by
  unfold catRequest at h
  simp only [bind_eq_ok] at h
  obtain ⟨_, ho, h⟩ := h
  split at h
  case isTrue => cases h
  case isFalse hn =>
    obtain ⟨_, hf, h⟩ := bind_eq_ok.mp h
    obtain ⟨jobs, hj, h⟩ := bind_eq_ok.mp h
    cases h
    refine ⟨rfl, by simpa using hn, fun f hm => ?_⟩
    have hf : checkFile host "'FILES...'" f = .ok () := forM_eq_ok.mp hf f hm
    have hf : [f].forM (checkFile host "'FILES...'") = .ok () := by simpa [forM_eq_ok] using hf
    rw [catRequest, ho]
    simp [bind, Except.bind, pure, Except.pure, hf, hj]

end CommandLine

end Highlight
