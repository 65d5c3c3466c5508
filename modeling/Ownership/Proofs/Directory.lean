import Mathlib.Data.List.Induction
import Ownership.Account
import Ownership.Proofs.Tables
import Ownership.Proofs.Text.Sorting

/-!
# Looking accounts up by address

A directory is filled by adding accounts, and adding a known number again replaces the data of its
account.  The lists of the addresses only grow, so an account that gives an address up stays listed
under it.  What an address finds are the active accounts that were ever added with it, in the order
in which they first were.
-/

namespace Ownership
namespace Directory

variable {accounts : List Account} {account : Account} {email : String} {id : Int}

/-!
# What was added
-/

def lastAdded? (accounts : List Account) (id : Int) : Option Account :=
  accounts.reverse.find? fun account => account.id = id

/-- The accounts that were ever added with an address, in the order in which they first were. -/
def everListed (accounts : List Account) (email : String) : List Int :=
  ((accounts.filter fun account => decide (email ∈ account.emails)).map Account.id).eraseDups

theorem lastAdded?_append_singleton (accounts : List Account) (account : Account) (id : Int) :
    lastAdded? (accounts ++ [account]) id =
      if account.id = id then some account else lastAdded? accounts id := by
  unfold lastAdded?
  rw [find?_reverse_append_singleton]
  simp only [decide_eq_true_eq]

theorem mem_everListed :
    id ∈ everListed accounts email ↔
      ∃ account ∈ accounts, account.id = id ∧ email ∈ account.emails := by
  unfold everListed
  rw [List.mem_eraseDups, List.mem_map]
  simp only [List.mem_filter, decide_eq_true_eq]
  constructor
  · intro h
    rcases h with ⟨account, ⟨hmem, hemail⟩, hid⟩
    exact ⟨account, hmem, hid, hemail⟩
  · intro h
    rcases h with ⟨account, hmem, hid, hemail⟩
    exact ⟨account, ⟨hmem, hemail⟩, hid⟩

theorem nodup_everListed (accounts : List Account) (email : String) :
    (everListed accounts email).Nodup := by
  unfold everListed
  exact Text.nodup_eraseDups _

theorem everListed_append_singleton (accounts : List Account) (account : Account)
    (email : String) : everListed (accounts ++ [account]) email =
      if email ∈ account.emails ∧ account.id ∉ everListed accounts email then
        everListed accounts email ++ [account.id]
      else everListed accounts email := by
  unfold everListed
  rw [List.filter_append, List.map_append]
  by_cases hemail : email ∈ account.emails
  · have hhere : [account].filter (fun account => decide (email ∈ account.emails)) = [account] :=
      List.filter_cons_of_pos (decide_eq_true hemail)
    rw [hhere, List.map_singleton, Text.eraseDups_append_singleton]
    simp only [hemail, true_and, List.mem_eraseDups, ite_not]
  · simp [hemail]

/-!
# What a directory holds
-/

theorem ofList_append_singleton (accounts : List Account) (account : Account) :
    ofList (accounts ++ [account]) = (ofList accounts).add account :=
  List.foldl_append

theorem get?_ofList (accounts : List Account) (id : Int) :
    (ofList accounts).get? id = lastAdded? accounts id := by
  induction accounts using List.reverseRecOn with
  | nil => rfl
  | append_singleton earlier account ih =>
      rw [ofList_append_singleton, lastAdded?_append_singleton, ← ih]
      exact Table.get?_insert ..

theorem getD_listUnder (ids : Table String (List Int)) (email other : String) (id : Int) :
    (listUnder ids email id).getD other [] =
      if email = other ∧ id ∉ ids.getD other [] then ids.getD other [] ++ [id]
      else ids.getD other [] := by
  unfold listUnder
  dsimp only
  rw [Table.getD_insert]
  by_cases h : email = other
  · subst h
    by_cases hid : id ∈ ids.getD email [] <;> simp [hid]
  · simp [h]

/-- An account is listed once under each of its addresses, however often it has it. -/
theorem getD_listUnder_all (ids : Table String (List Int)) (emails : List String) (other : String)
    (id : Int) : (emails.foldl (fun ids email => listUnder ids email id) ids).getD other [] =
      if other ∈ emails ∧ id ∉ ids.getD other [] then ids.getD other [] ++ [id]
      else ids.getD other [] := by
  induction emails generalizing ids with
  | nil => simp
  | cons first rest ih =>
      rw [List.foldl_cons, ih, getD_listUnder]
      by_cases hid : id ∈ ids.getD other []
      · simp [hid]
      · by_cases hfirst : first = other
        · simp [hid, hfirst]
        · simp [hid, hfirst, Ne.symm hfirst]

theorem getD_idsByEmail (accounts : List Account) (email : String) :
    (ofList accounts).idsByEmail.getD email [] = everListed accounts email := by
  induction accounts using List.reverseRecOn with
  | nil => rfl
  | append_singleton earlier account ih =>
      rw [ofList_append_singleton, everListed_append_singleton, ← ih]
      exact getD_listUnder_all ..

theorem byEmail_ofList (accounts : List Account) (email : String) :
    (ofList accounts).byEmail email =
      (everListed accounts email).filter (ofList accounts).isActive := by
  unfold byEmail
  rw [getD_idsByEmail]

theorem isActive_iff {directory : Directory} :
    directory.isActive id = true ↔
      ∃ account, directory.get? id = some account ∧ account.active = true := by
  unfold isActive
  rw [Option.any_eq_true]

/-!
# Addresses that were given up
-/

def Has (directory : Directory) (email : String) (id : Int) : Prop :=
  ∃ account ∈ directory.get? id, account.active = true ∧ email ∈ account.emails

instance (directory : Directory) (email : String) (id : Int) :
    Decidable (directory.Has email id) :=
  inferInstanceAs (Decidable (∃ account ∈ directory.get? id, _))

/-- An account is active, was added with an address, and does not have it any more. -/
def GaveUp (accounts : List Account) (email : String) (id : Int) : Prop :=
  (∃ account, lastAdded? accounts id = some account ∧ account.active = true ∧
    email ∉ account.emails) ∧
  ∃ earlier ∈ accounts, earlier.id = id ∧ email ∈ earlier.emails

theorem mem_of_lastAdded? (h : lastAdded? accounts id = some account) :
    account ∈ accounts ∧ account.id = id :=
  ⟨List.mem_reverse.mp (List.mem_of_find?_eq_some h), by simpa using List.find?_some h⟩

theorem mem_byEmail_iff :
    id ∈ (ofList accounts).byEmail email ↔
      (ofList accounts).Has email id ∨ GaveUp accounts email id := by
  rw [byEmail_ofList, List.mem_filter, mem_everListed, isActive_iff, get?_ofList]
  constructor
  · intro h
    rcases h with ⟨hever, account, hlast, hactive⟩
    by_cases hemail : email ∈ account.emails
    · exact .inl ⟨account, (get?_ofList accounts id).trans hlast, hactive, hemail⟩
    · exact .inr ⟨⟨account, hlast, hactive, hemail⟩, hever⟩
  · intro h
    rcases h with ⟨account, hget, hactive, hemail⟩ | ⟨⟨account, hlast, hactive, _⟩, hever⟩
    · have hlast : lastAdded? accounts id = some account :=
        (get?_ofList accounts id).symm.trans hget
      rcases mem_of_lastAdded? hlast with ⟨hmem, hid⟩
      exact ⟨⟨account, hmem, hid, hemail⟩, account, hlast, hactive⟩
    · exact ⟨hever, account, hlast, hactive⟩

theorem GaveUp.not_has (h : GaveUp accounts email id) : ¬(ofList accounts).Has email id := by
  intro hhas
  rcases h with ⟨⟨account, hlast, _, hemail⟩, _⟩
  rcases hhas with ⟨found, hget, _, hfound⟩
  rw [get?_ofList, hlast] at hget
  cases hget
  exact hemail hfound

/-- An address finds, each once and in the order in which they were first added with it, the active
accounts that have it and those that have given it up.  So it finds just those that have it as long
as nobody has given it up. -/
theorem byEmail_of_added (accounts : List Account) (email : String) :
    (ofList accounts).byEmail email =
        (everListed accounts email).filter (ofList accounts).isActive ∧
      ((ofList accounts).byEmail email).Nodup ∧
      ∀ id, (ofList accounts).get? id = lastAdded? accounts id ∧
        (id ∈ (ofList accounts).byEmail email ↔
          (ofList accounts).Has email id ∨ GaveUp accounts email id) ∧
        ((id ∈ (ofList accounts).byEmail email ↔ (ofList accounts).Has email id) ↔
          ¬GaveUp accounts email id) := by
  have horder := byEmail_ofList accounts email
  refine ⟨horder, ?_, fun id => ⟨get?_ofList accounts id, mem_byEmail_iff, ?_⟩⟩
  · rw [horder]
    exact (nodup_everListed accounts email).filter _
  · rw [mem_byEmail_iff]
    constructor
    · intro hsame hgave
      exact hgave.not_has (hsame.mp (.inr hgave))
    · intro hkept
      exact or_iff_left hkept

/-!
# Hidden accounts
-/

/-- Two directories agree on the accounts that are shown: on what is known of each, and on the order
in which an address finds them. -/
structure SameShown (shows : Int → Bool) (directory other : Directory) : Prop where
  known : ∀ id, shows id = true → other.get? id = directory.get? id
  found : ∀ email, (other.byEmail email).filter shows = (directory.byEmail email).filter shows

theorem SameShown.isActive {shows : Int → Bool} {directory other : Directory}
    (h : SameShown shows directory other) (hid : shows id = true) :
    other.isActive id = directory.isActive id := by
  unfold Directory.isActive
  rw [h.known id hid]

theorem lastAdded?_filter {shows : Int → Bool} (accounts : List Account) (hid : shows id = true) :
    lastAdded? (accounts.filter fun account => shows account.id) id = lastAdded? accounts id := by
  unfold lastAdded?
  rw [← List.filter_reverse, List.find?_filter]
  congr 1
  funext account
  by_cases h : account.id = id
  · simp [h, hid]
  · simp [h]

theorem everListed_filter (shows : Int → Bool) (accounts : List Account) (email : String) :
    (everListed accounts email).filter shows =
      everListed (accounts.filter fun account => shows account.id) email := by
  unfold everListed
  rw [Text.filter_eraseDups, List.filter_map, List.filter_comm]
  rfl

/-- Directories agree on the accounts that are shown if the same of these were added to both in the
same order, whatever else was. -/
theorem sameShown_of_filter {shows : Int → Bool} {accounts others : List Account}
    (h : (others.filter fun account => shows account.id) =
      accounts.filter fun account => shows account.id) :
    SameShown shows (ofList accounts) (ofList others) := by
  have hknown : ∀ id, shows id = true → (ofList others).get? id = (ofList accounts).get? id := by
    intro id hid
    rw [get?_ofList, get?_ofList, ← lastAdded?_filter others hid, h, lastAdded?_filter accounts hid]
  refine ⟨hknown, fun email => ?_⟩
  rw [byEmail_ofList, byEmail_ofList, List.filter_comm, everListed_filter, h, ← everListed_filter,
    List.filter_comm shows]
  apply List.filter_congr
  intro id hid
  have hshown : shows id = true := (List.mem_filter.mp hid).2
  unfold isActive
  rw [hknown id hshown]

/-!
# A move over the hill

Ann moves from the hill to the dale, and Bob gets her address on the hill.
-/

def movedAccounts : List Account := [
  { id := 1, emails := ["ann@hill"] },
  { id := 1, emails := ["ann@dale"] },
  { id := 2, emails := ["ann@hill"] }]

theorem hill_still_finds_ann :
    (ofList movedAccounts).byEmail "ann@hill" = [1, 2] ∧
      ¬(ofList movedAccounts).Has "ann@hill" 1 ∧ (ofList movedAccounts).Has "ann@hill" 2 := by
  decide

end Directory
end Ownership
