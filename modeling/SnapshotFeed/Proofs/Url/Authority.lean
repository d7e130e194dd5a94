import Mathlib.Data.List.TakeWhile
import SnapshotFeed.Proofs.Url.Name

/-! The authority is read from the text before the first character that ends it.

What follows that text is left as it is (`readAuthority_frontOf`), whatever it is; so the authority
stays the same when a path is appended. -/
namespace SnapshotFeed.Url

variable {named : Bool} {front tail : List Char}

/-- The text before the first character that ends an authority. -/
def frontOf (named : Bool) (text : List Char) : List Char := text.takeWhile (!endsAuthority named ·)

/-- The text from the first character on that ends an authority. -/
def tailOf (named : Bool) (text : List Char) : List Char := text.dropWhile (!endsAuthority named ·)

theorem frontOf_append_tailOf (named : Bool) (text : List Char) :
    frontOf named text ++ tailOf named text = text := List.takeWhile_append_dropWhile

/-- A text without characters that end an authority. -/
def Inner (named : Bool) (text : List Char) : Prop := ∀ c ∈ text, endsAuthority named c = false

theorem inner_frontOf (named : Bool) (text : List Char) : Inner named (frontOf named text) := by
  intro c hc
  simpa using List.all_eq_true.mp List.all_takeWhile c hc

theorem mem_tailOf {text : List Char} {c : Char} (hc : c ∈ text)
    (hends : endsAuthority named c = true) : c ∈ tailOf named text :=
  (mem_dropWhile_of_not (by simp [hends])).mpr hc

/-- A text that is empty, or starts with a character that ends an authority. -/
def Outer (named : Bool) (text : List Char) : Prop :=
  ∀ c ∈ text.head?, endsAuthority named c = true

theorem outer_tailOf (named : Bool) (text : List Char) : Outer named (tailOf named text) := by
  intro c hc
  have hhead := List.head?_dropWhile_not (!endsAuthority named ·) text
  rw [show text.dropWhile (!endsAuthority named ·) = tailOf named text from rfl,
    Option.mem_def.mp hc] at hhead
  simpa using hhead

theorem frontOf_append (htail : Outer named tail) (text : List Char) :
    frontOf named (text ++ tail) = frontOf named text :=
  takeWhile_append_stop (fun c hc => by simp [htail c hc]) text

theorem tailOf_append (htail : Outer named tail) (text : List Char) :
    tailOf named (text ++ tail) = tailOf named text ++ tail :=
  dropWhile_append_stop (fun c hc => by simp [htail c hc]) text

theorem frontOf_eq_nil {text : List Char} (h : Outer named text) : frontOf named text = [] := by
  rcases text with _ | ⟨c, text⟩
  · rfl
  · exact List.takeWhile_cons_of_neg (by simp [h c rfl])

theorem frontOf_of_inner (hfront : Inner named front) : frontOf named front = front :=
  List.takeWhile_eq_self_iff.mpr fun c hc => by simp [hfront c hc]

theorem frontOf_append_of_not_inner {text : List Char} (h : ¬Inner named text)
    (more : List Char) : frontOf named (text ++ more) = frontOf named text := by
  rw [frontOf, List.takeWhile_append, if_neg]
  · rfl
  · intro hlength
    refine h ?_
    rw [← (List.takeWhile_prefix _).eq_of_length hlength]
    exact inner_frontOf named text

theorem splitUser?_append (hfront : Inner named front) (htail : Outer named tail) :
    splitUser? named (front ++ tail) =
      (splitUser? named front).map fun (user, rest) => (user, rest ++ tail) := by
  have hself := frontOf_of_inner hfront
  have hboth := (frontOf_append htail front).trans hself
  unfold frontOf at hself hboth
  unfold splitUser?
  simp only [hboth, hself]
  split
  · rfl
  · rename_i hlength
    have hle : (front.reverse.takeWhile (· != '@')).reverse.length ≤ front.length := by
      rw [List.length_reverse, ← @List.length_reverse _ front]
      exact (List.takeWhile_prefix _).length_le
    simp only [Option.map_some, Option.some.injEq, Prod.mk.injEq, true_and]
    refine List.drop_append_of_le_length ?_
    rw [List.length_take]
    omega

theorem splitHost_append (htail : Outer named tail) (inside : Bool) (text : List Char) :
    splitHost named inside (text ++ tail) =
      ((splitHost named inside text).1, (splitHost named inside text).2 ++ tail) := by
  induction text generalizing inside with
  | nil =>
    cases tail with
    | nil => rfl
    | cons c tail => simp [splitHost, htail c rfl]
  | cons c text ih =>
    rw [List.cons_append, splitHost, splitHost]
    split
    · rfl
    · simp only [ih]

theorem eq_of_endsAuthority {c : Char} (h : endsAuthority named c = true) :
    c = '/' ∨ c = '\\' ∨ c = '?' ∨ c = '#' := by
  simp only [endsAuthority, Bool.or_eq_true, Bool.and_eq_true, beq_iff_eq] at h
  tauto

theorem readPort_append (default : Option Nat) (htail : Outer named tail) (text : List Char) :
    readPort default (text ++ tail) =
      (readPort default text).map fun (port, rest) => (port, rest ++ tail) := by
  have hdigit : ∀ c ∈ tail.head?, c.isDigit = false := by
    intro c hc
    rcases eq_of_endsAuthority (htail c hc) with rfl | rfl | rfl | rfl <;> rfl
  unfold readPort
  rw [span_append_stop hdigit]
  rcases text.span Char.isDigit with ⟨digits, rest⟩
  dsimp only
  split
  · rfl
  · cases rest with
    | nil =>
      cases tail with
      | nil => rfl
      | cons c tail => rcases eq_of_endsAuthority (htail c rfl) with rfl | rfl | rfl | rfl <;> rfl
    | cons c rest =>
      rw [List.cons_append]
      split <;> simp_all [Except.map]

theorem eq_of_splitUser? {user rest : List Char} (hfront : Inner named front)
    (h : splitUser? named front = some (user, rest)) : front = user ++ '@' :: rest := by
  have hself := frontOf_of_inner hfront
  unfold frontOf at hself
  unfold splitUser? at h
  simp only [hself] at h
  split at h
  · cases h
  · rename_i hlength
    have hreverse := List.takeWhile_append_dropWhile (p := (· != '@')) (l := front.reverse)
    generalize front.reverse.takeWhile (· != '@') = host at h hlength hreverse
    have hhead := List.head?_dropWhile_not (· != '@') front.reverse
    cases hdrop : front.reverse.dropWhile (· != '@') with
    | nil =>
      rw [hdrop, List.append_nil] at hreverse
      exact absurd (by rw [hreverse, List.reverse_reverse]) hlength
    | cons d before =>
      rw [hdrop] at hreverse hhead
      obtain rfl : d = '@' := by simpa using hhead
      have hwhole : front = before.reverse ++ '@' :: host.reverse := by
        rw [← List.reverse_reverse front, ← hreverse]
        simp
      rw [hwhole] at h ⊢
      have hbefore : (before.reverse ++ '@' :: host.reverse).length - host.reverse.length - 1 =
          before.reverse.length := by
        simp only [List.length_append, List.length_cons]
        omega
      rw [hbefore, List.take_left] at h
      cases h
      rw [List.drop_append, List.drop_eq_nil_of_le (by simp)]
      simp

theorem isBareAt_append (hfront : Inner named front) (hbare : tail = [] ∨ front ≠ ['@']) :
    isBareAt named ((splitUser? named front).map fun (user, rest) => (user, rest ++ tail)) =
      false := by
  cases hsplit : splitUser? named front with
  | none => rfl
  | some split =>
    obtain ⟨user, rest⟩ := split
    have hwhole := eq_of_splitUser? hfront hsplit
    rcases user with _ | ⟨u, user⟩
    · rcases rest with _ | ⟨c, rest⟩
      · rcases hbare with rfl | hne
        · rfl
        · exact absurd hwhole hne
      · exact hfront c (by simp [hwhole])
    · rfl

/-- What the authority is read from, and what follows it, do not mix. -/
theorem readAuthority_append {scheme : List Char} (hfront : Inner (isNamed scheme) front)
    (htail : Outer (isNamed scheme) tail) (hbare : tail = [] ∨ front ≠ ['@']) :
    readAuthority scheme (front ++ tail) =
      (readAuthority scheme front).map fun (a, rest) => (a, rest ++ tail) := by
  have hbareFront : isBareAt (isNamed scheme) (splitUser? (isNamed scheme) front) = false := by
    simpa using @isBareAt_append _ _ [] hfront (.inl rfl)
  have hcolon : ∀ c ∈ tail.head?, c ≠ ':' := by
    rintro c hc rfl
    rcases eq_of_endsAuthority (htail _ hc) with h | h | h | h <;> cases h
  have hsplit : ((splitUser? (isNamed scheme) front).map fun (user, rest) => (user, rest ++ tail)).getD
      ([], front ++ tail) = (((splitUser? (isNamed scheme) front).getD ([], front)).1,
        ((splitUser? (isNamed scheme) front).getD ([], front)).2 ++ tail) := by
    cases splitUser? (isNamed scheme) front <;> rfl
  unfold readAuthority
  simp only [splitUser?_append hfront htail, isBareAt_append hfront hbare, hbareFront, hsplit,
    splitHost_append htail, Bool.false_eq_true, if_false]
  rcases (splitUser? (isNamed scheme) front).getD ([], front) with ⟨user, afterUser⟩
  rcases splitHost (isNamed scheme) false afterUser with ⟨hostText, rest⟩
  have hhead : (rest ++ tail).head? = some ':' ↔ rest.head? = some ':' := by
    cases rest with
    | nil =>
      refine ⟨fun h => absurd rfl (hcolon _ h), fun h => nomatch h⟩
    | cons c rest => rfl
  dsimp only
  cases readHost (isNamed scheme) hostText with
  | error fault => rfl
  | ok host =>
    simp only [hhead, bind, Except.bind]
    split
    · rfl
    · rcases rest with _ | ⟨c, rest⟩
      · rw [List.nil_append]
        split
        · exact absurd rfl (hcolon _ rfl)
        · rfl
      · by_cases hc : c = ':'
        · subst hc
          simp only [List.cons_append, readPort_append _ htail]
          cases readPort (defaultPort? scheme) rest <;> rfl
        · simp [hc, Except.map]

/-! ### What is read -/

section Read
variable {scheme text other rest : List Char} {a : Authority}

/-- The steps by which an authority is read. -/
theorem readAuthority_cases (h : readAuthority scheme text = .ok (a, rest)) :
    isBareAt (isNamed scheme) (splitUser? (isNamed scheme) text) = false ∧
    ∃ user afterUser hostText afterHost,
      (splitUser? (isNamed scheme) text).getD ([], text) = (user, afterUser) ∧
      splitHost (isNamed scheme) false afterUser = (hostText, afterHost) ∧
      readHost (isNamed scheme) hostText = .ok a.host ∧
      (rest = afterHost ∧ afterHost.head? ≠ some ':' ∨
        ∃ afterColon port, afterHost = ':' :: afterColon ∧
          readPort (defaultPort? scheme) afterColon = .ok (port, rest)) := by
  rcases hsplit : (splitUser? (isNamed scheme) text).getD ([], text) with ⟨user, afterUser⟩
  rcases hhost : splitHost (isNamed scheme) false afterUser with ⟨hostText, afterHost⟩
  unfold readAuthority at h
  simp only [hsplit, hhost, bind, Except.bind] at h
  split at h
  · cases h
  · rename_i hbare
    refine ⟨by simpa using hbare, _, _, _, _, rfl, hhost, ?_⟩
    split at h
    · cases h
    · rename_i host hread
      split at h
      · cases h
      · split at h
        · split at h
          · cases h
          · rename_i hport
            cases h
            exact ⟨hread, .inr ⟨_, _, rfl, hport⟩⟩
        · rename_i hcolon
          cases h
          refine ⟨hread, .inl ⟨rfl, fun hhead => ?_⟩⟩
          obtain ⟨more, hmore⟩ := List.head?_eq_some_iff.mp hhead
          exact hcolon _ hmore

/-- A host text ends at a colon, or where the authority does. -/
theorem splitHost_eq (inside : Bool) (text : List Char) :
    (splitHost named inside text).1 ++ (splitHost named inside text).2 = text ∧
      ∀ c ∈ (splitHost named inside text).2.head?, c = ':' ∨ endsAuthority named c = true := by
  induction text generalizing inside with
  | nil => exact ⟨rfl, nofun⟩
  | cons c text ih =>
    rw [splitHost]
    split
    · rename_i hstop
      refine ⟨rfl, ?_⟩
      rintro _ ⟨⟩
      simp only [Bool.or_eq_true, Bool.and_eq_true, beq_iff_eq] at hstop
      exact hstop.imp_left And.left
    · obtain ⟨happend, hhead⟩ := ih (if c == '[' then true else if c == ']' then false else inside)
      exact ⟨congrArg (c :: ·) happend, hhead⟩

theorem readPort_eq {default port : Option Nat} (h : readPort default text = .ok (port, rest)) :
    rest = text.dropWhile Char.isDigit ∧ ∀ c ∈ rest.head?, endsAuthority true c = true := by
  unfold readPort at h
  rw [List.span_eq_takeWhile_dropWhile] at h
  dsimp only at h
  split at h
  · cases h
  · split at h
    case h_6 => cases h
    all_goals
      rename_i hrest
      cases h
      exact ⟨rfl, by simp [hrest, endsAuthority]⟩

/-- What is left after the authority is the end of the text. -/
theorem suffix_of_readAuthority (h : readAuthority scheme text = .ok (a, rest)) : rest <:+ text := by
  obtain ⟨-, user, afterUser, hostText, afterHost, hsplit, hhost, -, hrest⟩ := readAuthority_cases h
  have hafterUser : afterUser <:+ text := by
    have hsnd := congrArg Prod.snd hsplit
    unfold splitUser? at hsnd
    dsimp only at hsnd
    split at hsnd
    · exact hsnd ▸ List.suffix_refl _
    · exact hsnd ▸ List.drop_suffix ..
  have hafterHost : afterHost <:+ text := by
    have happend := (@splitHost_eq (isNamed scheme) false afterUser).1
    rw [hhost] at happend
    exact (happend ▸ List.suffix_append ..).trans hafterUser
  rcases hrest with ⟨rfl, -⟩ | ⟨afterColon, port, rfl, hport⟩
  · exact hafterHost
  · rw [(readPort_eq hport).1]
    exact (List.dropWhile_suffix _).trans ((List.suffix_cons ..).trans hafterHost)

/-- Of an at sign alone nothing can be read. -/
theorem front_ne_of_readAuthority (htail : Outer (isNamed scheme) tail) (hne : tail ≠ [])
    (h : readAuthority scheme (front ++ tail) = .ok (a, rest)) : front ≠ ['@'] := by
  rintro rfl
  obtain ⟨hbare, -⟩ := readAuthority_cases h
  obtain ⟨c, tail, rfl⟩ := List.exists_cons_of_ne_nil hne
  have hinner : Inner (isNamed scheme) ['@'] := by
    rintro c hc
    rw [List.mem_singleton.mp hc]
    cases isNamed scheme <;> rfl
  have hat : splitUser? (isNamed scheme) ['@'] = some ([], []) := by
    cases isNamed scheme <;> rfl
  rw [splitUser?_append hinner htail, hat] at hbare
  exact absurd (htail c rfl) (by simpa [isBareAt] using hbare)

/-- The text before the first character that ends it has the whole authority. -/
theorem readAuthority_frontOf (hne : tailOf (isNamed scheme) text ≠ [])
    (h : readAuthority scheme text = .ok (a, rest)) :
    frontOf (isNamed scheme) text ≠ ['@'] ∧
      ∃ q, readAuthority scheme (frontOf (isNamed scheme) text) = .ok (a, q) ∧
        rest = q ++ tailOf (isNamed scheme) text := by
  rw [← frontOf_append_tailOf (isNamed scheme) text] at h
  have hfront := front_ne_of_readAuthority (outer_tailOf _ _) hne h
  refine ⟨hfront, ?_⟩
  rw [readAuthority_append (inner_frontOf _ _) (outer_tailOf _ _) (.inr hfront)] at h
  cases hread : readAuthority scheme (frontOf (isNamed scheme) text) with
  | error fault =>
    rw [hread] at h
    cases h
  | ok read =>
    rw [hread] at h
    cases h
    exact ⟨_, rfl, rfl⟩

/-- So it is the authority of every text that begins so. -/
theorem readAuthority_same (hne : tailOf (isNamed scheme) text ≠ [])
    (h : readAuthority scheme text = .ok (a, rest))
    (hsame : frontOf (isNamed scheme) other = frontOf (isNamed scheme) text) :
    ∃ rest', readAuthority scheme other = .ok (a, rest') := by
  obtain ⟨hfront, q, hq, -⟩ := readAuthority_frontOf hne h
  have happend := readAuthority_append (inner_frontOf _ text) (outer_tailOf _ other) (.inr hfront)
  rw [hq, ← hsame, frontOf_append_tailOf] at happend
  exact ⟨_, happend⟩

/-- What is appended to a text is appended to what follows its authority. -/
theorem exists_rest_of_readAuthority (htail : Outer (isNamed scheme) tail) (hne : tail ≠ [])
    (h : readAuthority scheme (text ++ tail) = .ok (a, rest)) :
    ∃ t, rest = t ++ tail ∧ t <:+ text ∧
      ∀ c ∈ text, endsAuthority (isNamed scheme) c = true → c ∈ t := by
  have htailOf := tailOf_append htail text
  obtain ⟨-, q, -, hrest⟩ := readAuthority_frontOf (by simp [htailOf, hne]) h
  rw [htailOf, ← List.append_assoc] at hrest
  refine ⟨_, hrest, ?_, fun c hc hends => ?_⟩
  · obtain ⟨before, hbefore⟩ := suffix_of_readAuthority h
    rw [hrest, ← List.append_assoc] at hbefore
    exact ⟨before, List.append_cancel_right hbefore⟩
  · exact List.mem_append_right _ (mem_tailOf hc hends)

/-! ### Blanks at the end -/

/-- What follows the user ends as the text does. -/
theorem exists_afterUser_concat {c : Char} (hc : c ≠ '@') (hinner : Inner named (front ++ [c]))
    {user afterUser : List Char}
    (hsplit : (splitUser? named (front ++ [c])).getD ([], front ++ [c]) = (user, afterUser)) :
    ∃ back, afterUser = back ++ [c] ∧ Inner named (back ++ [c]) := by
  cases huser : splitUser? named (front ++ [c]) with
  | none =>
    rw [huser] at hsplit
    cases hsplit
    exact ⟨front, rfl, hinner⟩
  | some split =>
    rw [huser] at hsplit
    cases hsplit
    have hwhole := eq_of_splitUser? hinner huser
    rcases List.eq_nil_or_concat afterUser with rfl | ⟨back, d, rfl⟩
    · exact absurd (List.singleton_inj.mp (List.append_inj' hwhole rfl).2) hc
    · rw [List.concat_eq_append, ← List.cons_append, ← List.append_assoc] at hwhole
      obtain rfl : c = d := List.singleton_inj.mp (List.append_inj' hwhole rfl).2
      exact ⟨back, List.concat_eq_append .., fun e he => hinner e (by simp_all)⟩

/-- A port does not end in a blank. -/
theorem readPort_concat_blank {c : Char} (hc : c.isDigit = false)
    (hinner : Inner true (front ++ [c])) {default port : Option Nat} :
    readPort default (front ++ [c]) ≠ .ok (port, rest) := by
  intro h
  obtain ⟨hdrop, houter⟩ := readPort_eq h
  rcases rest with _ | ⟨d, rest⟩
  · rw [List.dropWhile_eq_nil_iff.mp hdrop.symm c (by simp)] at hc
    cases hc
  · have hd : d ∈ front ++ [c] :=
      (List.dropWhile_suffix _).subset (hdrop ▸ List.mem_cons_self ..)
    have hnot := hinner d hd
    rw [houter d rfl] at hnot
    cases hnot

/-- Under a scheme with names for hosts, no authority has a blank at its end. -/
theorem readAuthority_concat_blank {c : Char} (hnamed : isNamed scheme = true)
    (hc : isBlank c = true) (hinner : Inner (isNamed scheme) (front ++ [c])) :
    readAuthority scheme (front ++ [c]) ≠ .ok (a, rest) := by
  intro h
  obtain ⟨hat, hcolon, hdigit⟩ : c ≠ '@' ∧ c ≠ ':' ∧ c.isDigit = false :=
    of_isBlank (p := fun c => c ≠ '@' ∧ c ≠ ':' ∧ c.isDigit = false) (by decide) hc
  obtain ⟨-, user, afterUser, hostText, afterHost, hsplit, hhost, hread, hrest⟩ :=
    readAuthority_cases h
  obtain ⟨back, rfl, hback⟩ := exists_afterUser_concat hat hinner hsplit
  obtain ⟨happend, hhead⟩ := @splitHost_eq (isNamed scheme) false (back ++ [c])
  rw [hhost] at happend hhead
  rcases List.eq_nil_or_concat afterHost with rfl | ⟨init, d, rfl⟩
  · -- The blank belongs to the host.
    obtain rfl : hostText = back ++ [c] := by simpa using happend
    rw [readHost, hnamed] at hread
    simp only [Bool.not_true, Bool.false_eq_true, if_false, List.append_eq_nil_iff,
      List.cons_ne_self, and_false] at hread
    exact Host.parse_concat_blank hc _ hread
  · -- The blank belongs to the port.
    rw [List.concat_eq_append] at happend hhead hrest
    obtain ⟨hinit, hlast⟩ := List.append_inj' ((List.append_assoc ..).trans happend) rfl
    obtain rfl : d = c := List.singleton_inj.mp hlast
    rcases init with _ | ⟨e, more⟩
    · rcases hhead d rfl with hsame | hends
      · exact hcolon hsame
      · rw [hback d (by simp)] at hends
        cases hends
    · have he : endsAuthority (isNamed scheme) e = false := hback e (by simp [← hinit])
      obtain rfl : e = ':' := (hhead e rfl).resolve_right (by simp [he])
      rcases hrest with ⟨-, hnot⟩ | ⟨afterColon, port, hafter, hport⟩
      · exact hnot rfl
      · obtain ⟨-, rfl⟩ := List.cons.inj hafter
        refine readPort_concat_blank hdigit (fun e hin => ?_) hport
        rw [← hnamed]
        refine hback e (List.append_subset.mpr ⟨?_, List.subset_append_right ..⟩ hin)
        rw [← hinit]
        exact fun x hx => by simp [hx]

end Read

end SnapshotFeed.Url
