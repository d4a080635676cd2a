import FeatureSurvey.Batch.Whitelist
import FeatureSurvey.Proofs.Data.Table
import FeatureSurvey.Proofs.Text.Plain
import FeatureSurvey.Proofs.Text.Words
import FeatureSurvey.Text.Lowercase

/-!
# `Proofs/Batch/Address.lean` — which addresses have to be listed

An address has a scheme, perhaps a user, a host, perhaps a port, and a path. It can be cut into
these in one way only (`Address.text_injective`), so its host is a matter of its text.

The rule is about hosts: what is on the guarded host has to be listed, and everything else is free.
What is looked at is the text, all of it, letter by letter. None of the marks that part an address
occurs in the guarded name, so the name is found just where one of the parts has it
(`Address.isInfix_text_iff`). **An address that is not listed is judged by its host just when being
on the guarded host and having its name in some part are the same for it**
(`Whitelist.allows_byMention`). Two kinds of addresses are misjudged: those with the guarded host in
capitals, which slip through, and those on another host that mention the name, as a mirror does in
its path, which are refused.
-/

set_option autoImplicit false

namespace FeatureSurvey

/-! ## Addresses -/

/-- An address by its parts. A user may hold `@`, since the last one ends it; a colon stands in a
host only if the host is in brackets. -/
@[ext]
structure Address where
  scheme : String
  user : Option String
  host : String
  port : Option String
  path : String
  scheme_plain : ':' ∉ scheme.toList
  user_plain : ∀ u ∈ user, '/' ∉ u.toList
  host_plain : '@' ∉ host.toList ∧ '/' ∉ host.toList
  host_closed : ':' ∈ host.toList → host.toList.getLast? = some ']'
  port_digits : ∀ p ∈ port, ∀ c ∈ p.toList, c.isDigit = true

namespace Address

/-- The user with the mark behind, if there is one. -/
def userText (a : Address) : String := a.user.elim "" (· ++ "@")

/-- The port with the mark in front, if there is one. -/
def portText (a : Address) : String := a.port.elim "" (":" ++ ·)

def authority (a : Address) : String := a.userText ++ (a.host ++ a.portText)

/-- The address as it is written. -/
def text (a : Address) : String := a.scheme ++ "://" ++ a.authority ++ "/" ++ a.path

/-- All that stands between the marks, except for the host. -/
def beside (a : Address) : List String := a.scheme :: a.user.toList ++ a.port.toList ++ [a.path]

theorem toList_text (a : Address) :
    a.text.toList =
      a.scheme.toList ++ ':' :: '/' :: '/' :: (a.authority.toList ++ '/' :: a.path.toList) := by
  simp [text]

theorem toList_authority (a : Address) :
    a.authority.toList = a.userText.toList ++ (a.host.toList ++ a.portText.toList) := by
  simp [authority]

theorem text_ne_empty (a : Address) : a.text ≠ "" := by
  intro h
  have hlist := congrArg String.toList h
  simp [toList_text] at hlist

/-! ## One way to cut -/

section Cut

variable {a b : Address} {c : Char}

theorem not_mem_port {p : String} (hport : a.port = some p) (hdigit : c.isDigit = false) :
    c ∉ p.toList := by
  intro hmem
  rw [a.port_digits p hport c hmem] at hdigit
  cases hdigit

theorem not_mem_portText (hcolon : c ≠ ':') (hdigit : c.isDigit = false) :
    c ∉ a.portText.toList := by
  cases hport : a.port with
  | none => simp [portText, hport]
  | some p => simp [portText, hport, hcolon, not_mem_port hport hdigit]

theorem slash_not_mem_authority (a : Address) : '/' ∉ a.authority.toList := by
  have huser : '/' ∉ a.userText.toList := by
    cases huser : a.user with
    | none => simp [userText, huser]
    | some u => simp [userText, huser, a.user_plain u huser]
  have hport : '/' ∉ a.portText.toList := not_mem_portText (by decide) (by decide)
  simp [authority, huser, hport, a.host_plain.2]

theorem at_not_mem_hostPort (a : Address) : '@' ∉ a.host.toList ++ a.portText.toList := by
  have hport : '@' ∉ a.portText.toList := not_mem_portText (by decide) (by decide)
  simp [hport, a.host_plain.1]

/-- There is an `@` if there is a user. -/
theorem at_mem_authority_iff (a : Address) : '@' ∈ a.authority.toList ↔ a.user.isSome = true := by
  rw [toList_authority, List.mem_append, or_iff_left a.at_not_mem_hostPort]
  cases huser : a.user with
  | none => simp [userText, huser]
  | some u => simp [userText, huser]

/-- The last `@` ends the user. -/
theorem user_eq_of_authority_eq (h : a.authority.toList = b.authority.toList) :
    a.user = b.user ∧ a.host.toList ++ a.portText.toList = b.host.toList ++ b.portText.toList := by
  have hsome : a.user.isSome = true ↔ b.user.isSome = true := by
    rw [← at_mem_authority_iff, ← at_mem_authority_iff, h]
  rw [toList_authority, toList_authority] at h
  cases hua : a.user with
  | none =>
    cases hub : b.user with
    | none => exact ⟨rfl, by simpa [userText, hua, hub] using h⟩
    | some u => simp [hua, hub] at hsome
  | some u =>
    cases hub : b.user with
    | none => simp [hua, hub] at hsome
    | some u' =>
      have hcut : u.toList ++ '@' :: (a.host.toList ++ a.portText.toList) =
          u'.toList ++ '@' :: (b.host.toList ++ b.portText.toList) := by
        simpa [userText, hua, hub] using h
      obtain ⟨huser, hrest⟩ :=
        Text.append_cons_inj_last a.at_not_mem_hostPort b.at_not_mem_hostPort hcut
      exact ⟨congrArg some (String.toList_inj.1 huser), hrest⟩

/-- A host does not end as a host with a port does. -/
theorem host_ne_append_port {p : String} (hport : b.port = some p) :
    a.host.toList ≠ b.host.toList ++ ':' :: p.toList := by
  intro h
  have hlast : a.host.toList.getLast? = some ']' := a.host_closed (by simp [h])
  have hmem : ']' ∈ ':' :: p.toList := by
    rw [h, List.getLast?_append_of_ne_nil _ (List.cons_ne_nil _ _)] at hlast
    exact List.mem_of_getLast? hlast
  have hnot : ']' ∉ p.toList := not_mem_port hport (by decide)
  simp [hnot] at hmem

/-- Where the port begins is known from its end. -/
theorem host_eq_of_hostPort_eq
    (h : a.host.toList ++ a.portText.toList = b.host.toList ++ b.portText.toList) :
    a.host = b.host ∧ a.port = b.port := by
  cases hpa : a.port with
  | none =>
    cases hpb : b.port with
    | none => exact ⟨String.toList_inj.1 (by simpa [portText, hpa, hpb] using h), rfl⟩
    | some p => exact absurd (by simpa [portText, hpa, hpb] using h) (host_ne_append_port hpb)
  | some p =>
    cases hpb : b.port with
    | none => exact absurd (by simpa [portText, hpa, hpb] using h.symm) (host_ne_append_port hpa)
    | some p' =>
      have hcut : a.host.toList ++ ':' :: p.toList = b.host.toList ++ ':' :: p'.toList := by
        simpa [portText, hpa, hpb] using h
      obtain ⟨hhost, hport⟩ := Text.append_cons_inj_last (not_mem_port hpa (by decide))
        (not_mem_port hpb (by decide)) hcut
      exact ⟨String.toList_inj.1 hhost, congrArg some (String.toList_inj.1 hport)⟩

/-- **A text is an address in one way at most.** -/
theorem text_injective (h : a.text = b.text) : a = b := by
  have hlist := congrArg String.toList h
  rw [toList_text, toList_text] at hlist
  obtain ⟨hscheme, hrest⟩ := Text.append_cons_inj a.scheme_plain b.scheme_plain hlist
  obtain ⟨hauthority, hpath⟩ := Text.append_cons_inj a.slash_not_mem_authority
    b.slash_not_mem_authority (List.cons.inj (List.cons.inj hrest).2).2
  obtain ⟨huser, hhostPort⟩ := user_eq_of_authority_eq hauthority
  obtain ⟨hhost, hport⟩ := host_eq_of_hostPort_eq hhostPort
  exact Address.ext (String.toList_inj.1 hscheme) huser hhost hport (String.toList_inj.1 hpath)

end Cut

/-! ## What is found in an address -/

section Find

variable {pat : List Char}

theorem isInfix_userText_append_iff (a : Address) (hat : '@' ∉ pat) (rest : List Char) :
    pat <:+: a.userText.toList ++ rest ↔
      (∃ part ∈ a.user.toList, pat <:+: part.toList) ∨ pat <:+: rest := by
  cases huser : a.user with
  | none => simp [userText, huser]
  | some u => simp [userText, huser, Text.infix_append_cons_iff hat]

theorem isInfix_append_portText_iff (a : Address) (hcolon : ':' ∉ pat) (before : List Char) :
    pat <:+: before ++ a.portText.toList ↔
      pat <:+: before ∨ ∃ part ∈ a.port.toList, pat <:+: part.toList := by
  cases hport : a.port with
  | none => simp [portText, hport]
  | some p => simp [portText, hport, Text.infix_append_cons_iff hcolon]

/-- What holds none of the marks is found in an address just when a part of it has it. -/
theorem isInfix_text_iff (a : Address) (hne : pat ≠ []) (hcolon : ':' ∉ pat) (hslash : '/' ∉ pat)
    (hat : '@' ∉ pat) :
    pat <:+: a.text.toList ↔ pat <:+: a.host.toList ∨ ∃ part ∈ a.beside, pat <:+: part.toList := by
  have hnil : ¬ pat <:+: [] := fun h => hne (List.infix_nil.1 h)
  have hslashes : pat <:+: '/' :: '/' :: (a.authority.toList ++ '/' :: a.path.toList) ↔
      pat <:+: a.authority.toList ∨ pat <:+: a.path.toList := by
    rw [show '/' :: '/' :: (a.authority.toList ++ '/' :: a.path.toList) =
        [] ++ '/' :: ([] ++ '/' :: (a.authority.toList ++ '/' :: a.path.toList)) from rfl,
      Text.infix_append_cons_iff hslash, Text.infix_append_cons_iff hslash,
      Text.infix_append_cons_iff hslash]
    simp [hnil]
  rw [toList_text, Text.infix_append_cons_iff hcolon, hslashes, toList_authority,
    isInfix_userText_append_iff a hat, isInfix_append_portText_iff a hcolon]
  simp only [beside, List.mem_append, List.mem_cons, List.not_mem_nil, or_false, or_and_right,
    exists_or, exists_eq_left, List.cons_append]
  -- both sides name the same parts, in another order
  grind

end Find

/-! ## The guarded host -/

/-- Capitals do not matter in a host. -/
def OnGuardedHost (a : Address) : Prop := Text.asciiLowercase a.host = Whitelist.guardedHost

/-- A text has the guarded name in it, letter by letter. -/
def HasGuardedName (part : String) : Prop := Whitelist.guardedHost.toList <:+: part.toList

def Mentions (a : Address) : Prop := HasGuardedName a.host ∨ ∃ part ∈ a.beside, HasGuardedName part

instance (a : Address) : Decidable a.OnGuardedHost :=
  inferInstanceAs (Decidable (Text.asciiLowercase a.host = Whitelist.guardedHost))

instance (part : String) : Decidable (HasGuardedName part) :=
  inferInstanceAs (Decidable (Whitelist.guardedHost.toList <:+: part.toList))

instance (a : Address) : Decidable a.Mentions :=
  inferInstanceAs (Decidable (HasGuardedName a.host ∨ ∃ part ∈ a.beside, HasGuardedName part))

theorem contains_guardedHost_iff (a : Address) :
    Text.contains a.text Whitelist.guardedHost = true ↔ a.Mentions := by
  rw [Text.contains_iff_isInfix]
  exact a.isInfix_text_iff (by decide) (by decide) (by decide) (by decide)

/-- Capitals or not, the guarded host has as many letters, so it is all or nothing. -/
theorem OnGuardedHost.hasGuardedName_iff {a : Address} (h : a.OnGuardedHost) :
    HasGuardedName a.host ↔ a.host = Whitelist.guardedHost := by
  have hlength : Whitelist.guardedHost.toList.length = a.host.toList.length := by
    rw [← h]
    simp [Text.asciiLowercase]
  constructor
  · intro hname
    exact (String.toList_inj.1 (hname.eq_of_length hlength)).symm
  · intro hhost
    rw [HasGuardedName, hhost]

end Address

namespace Whitelist

theorem contains_iff (w : Whitelist) (url : String) : w.contains url = true ↔ url ∈ w.entries :=
  Table.mem_names_iff.symm

theorem allows_iff (w : Whitelist) (a : Address) :
    w.allows a.text = true ↔ a.text ∈ w.entries ∨ ¬ a.Mentions := by
  rw [← contains_iff, ← a.contains_guardedHost_iff]
  simp [allows, or_comm]

/-- A list names what its lines are, but for the white space around them; a blank line names
nothing. -/
theorem mem_entries_ofText {body url : String} :
    url ∈ (ofText body).entries ↔ url ≠ "" ∧ ∃ line ∈ Text.lines body, Text.trim line = url := by
  rw [entries, ofText, Table.mem_names_ofList]
  simp only [List.map_map, List.mem_map, List.mem_filter, Function.comp_apply, Bool.not_eq_true',
    String.isEmpty_eq_false_iff]
  constructor
  · rintro ⟨-, ⟨⟨line, hline, rfl⟩, hne⟩, rfl⟩
    exact ⟨hne, line, hline, rfl⟩
  · rintro ⟨hne, line, hline, rfl⟩
    exact ⟨_, ⟨⟨line, hline, rfl⟩, hne⟩, rfl⟩

/-- **An address is allowed if it is listed or mentions the guarded host nowhere.** For one that is
not listed, this is what its host asks for just when it mentions the guarded host if and only if it
is on it. On it, a mention takes the lower-case spelling, or another part that has the name. -/
theorem allows_byMention (w : Whitelist) (a : Address) :
    (w.allows a.text = true ↔ a.text ∈ w.entries ∨ ¬ a.Mentions) ∧
      ((w.allows a.text = true ↔ ¬ a.OnGuardedHost ∨ a.text ∈ w.entries) ↔
        a.text ∈ w.entries ∨ (a.OnGuardedHost ↔ a.Mentions)) ∧
      (a.OnGuardedHost → (a.Mentions ↔ a.host = guardedHost ∨
        ∃ part ∈ a.beside, Address.HasGuardedName part)) ∧
      (∀ b : Address, b.text = a.text → b = a) ∧
      ∀ body, a.text ∈ (ofText body).entries ↔
        ∃ line ∈ Text.lines body, Text.trim line = a.text := by
  have hallows := w.allows_iff a
  refine ⟨hallows, ?_, fun hhost => or_congr_left hhost.hasGuardedName_iff,
    fun b hb => Address.text_injective hb, fun body => ?_⟩
  · rw [hallows]
    by_cases hlisted : a.text ∈ w.entries
    · simp only [hlisted, true_or, or_true]
    · simp only [hlisted, false_or, or_false, not_iff_not]
      exact Iff.comm
  · rw [mem_entries_ofText, and_iff_right a.text_ne_empty]

/-- A repository on the guarded host, its name in capitals. -/
def capitals : Address where
  scheme := "https"
  user := none
  host := "GitHub.com"
  port := none
  path := "acme/widget"
  scheme_plain := by decide
  user_plain := by simp
  host_plain := by decide
  host_closed := by decide
  port_digits := by simp

/-- A mirror on another host. -/
def mirror : Address where
  scheme := "https"
  user := none
  host := "gitlab.com"
  port := none
  path := "mirrors/github.com/widget"
  scheme_plain := by decide
  user_plain := by simp
  host_plain := by decide
  host_closed := by decide
  port_digits := by simp

/-- The guarded host in capitals slips through, and a mirror elsewhere is refused. -/
theorem allows_not_byHost :
    (capitals.text = "https://GitHub.com/acme/widget" ∧ capitals.OnGuardedHost ∧
      capitals.text ∉ empty.entries ∧ empty.allows capitals.text = true) ∧
    mirror.text = "https://gitlab.com/mirrors/github.com/widget" ∧ ¬ mirror.OnGuardedHost ∧
      empty.allows mirror.text = false := by
  decide

end Whitelist

end FeatureSurvey
