import AnneDeBreuil.KnownHosts

namespace AnneDeBreuil

/-- A call of `verify_host_key` on a shared book. -/
structure HostKeyCall where
  host : String
  key : PublicKey
  acceptNew : Bool
deriving DecidableEq, Repr

section

variable (crates : SshCrates)

def HostKeyCall.run (book : KnownHosts) (call : HostKeyCall) : Except TransportError Unit × KnownHosts :=
  verifyHostKey crates book call.host call.key call.acceptNew

def HostKeyCall.answer (book : KnownHosts) (call : HostKeyCall) : Except TransportError Unit :=
  (call.run crates book).1

/-- The book after calls made one after the other. -/
def bookAfter (book : KnownHosts) (calls : List HostKeyCall) : KnownHosts :=
  calls.foldl (fun book call => (call.run crates book).2) book

/-- The answers to calls made one after the other. -/
def hostKeyAnswers (book : KnownHosts) : List HostKeyCall → List (Except TransportError Unit)
  | [] => []
  | call :: calls => call.answer crates book :: hostKeyAnswers (call.run crates book).2 calls

/-- The keys a run accepts for a host that had no entry. -/
def acceptedKeys (book : KnownHosts) (host : String) : List HostKeyCall → List PublicKey
  | [] => []
  | call :: calls =>
    if call.host = host ∧ call.acceptNew = true ∧ book.keysFor crates host = [] then
      call.key :: acceptedKeys (call.run crates book).2 host calls
    else acceptedKeys (call.run crates book).2 host calls

end

section

variable {crates : SshCrates} {book : KnownHosts} {call : HostKeyCall}

@[simp] theorem bookAfter_nil : bookAfter crates book [] = book := rfl

@[simp] theorem bookAfter_cons (calls : List HostKeyCall) :
    bookAfter crates book (call :: calls) = bookAfter crates (call.run crates book).2 calls := rfl

theorem bookAfter_append (before after : List HostKeyCall) :
    bookAfter crates book (before ++ after) = bookAfter crates (bookAfter crates book before) after :=
  List.foldl_append

theorem keysFor_record (host : String) (key : PublicKey) (other : String) :
    (book.record host key).keysFor crates other =
      if host = other then book.keysFor crates other ++ [key] else book.keysFor crates other := by
  unfold KnownHosts.record KnownHosts.keysFor
  split
  next h => simp [h]
  next h => simp [h]

/-- The book grows by a call that may accept new keys, where its host has no
entry. -/
theorem run_book (call : HostKeyCall) (book : KnownHosts) : (call.run crates book).2 =
    if call.acceptNew = true ∧ book.keysFor crates call.host = [] then book.record call.host call.key else book := by
  unfold HostKeyCall.run verifyHostKey
  rw [lookup_spec]
  by_cases hnone : book.keysFor crates call.host = []
  · cases call.acceptNew <;> simp [hnone]
  · by_cases hcarries : Carries (book.keysFor crates call.host) call.key
    · simp [hcarries, hnone]
    · simp [hcarries, hnone]

theorem keysFor_run (call : HostKeyCall) (book : KnownHosts) (host : String) :
    (call.run crates book).2.keysFor crates host =
      if call.host = host ∧ call.acceptNew = true ∧ book.keysFor crates host = [] then [call.key]
      else book.keysFor crates host := by
  rw [run_book]
  by_cases hhost : call.host = host
  · subst hhost
    split
    next h => rw [keysFor_record, if_pos rfl, h.2, if_pos ⟨rfl, h.1, rfl⟩, List.nil_append]
    next h => rw [if_neg (fun hall => h hall.2)]
  · rw [if_neg (fun hall : call.host = host ∧ _ => hhost hall.1)]
    split
    next h => rw [keysFor_record, if_neg hhost]
    next h => rfl

theorem keysFor_run_other {host : String} (h : call.host ≠ host) :
    (call.run crates book).2.keysFor crates host = book.keysFor crates host := by
  rw [keysFor_run, if_neg (fun hall => h hall.1)]

theorem keysFor_run_nonempty (call : HostKeyCall) {host : String} (h : book.keysFor crates host ≠ []) :
    (call.run crates book).2.keysFor crates host = book.keysFor crates host := by
  rw [keysFor_run, if_neg (fun hall => h hall.2.2)]

theorem answer_ok_iff : call.answer crates book = .ok () ↔
    Carries (book.keysFor crates call.host) call.key ∨
      call.acceptNew = true ∧ book.keysFor crates call.host = [] :=
  verifyHostKey_ok_iff

/-- An answer is a function of the entries of the call's own host. -/
theorem answer_congr {book' : KnownHosts}
    (h : book.keysFor crates call.host = book'.keysFor crates call.host) :
    call.answer crates book = call.answer crates book' := by
  unfold HostKeyCall.answer HostKeyCall.run verifyHostKey
  rw [lookup_spec, lookup_spec, h]
  split <;> first | rfl | (split <;> rfl)

/-- The entries of a host are those it had and the keys the run accepted. -/
theorem keysFor_bookAfter (book : KnownHosts) (host : String) (calls : List HostKeyCall) :
    (bookAfter crates book calls).keysFor crates host =
      book.keysFor crates host ++ acceptedKeys crates book host calls := by
  induction calls generalizing book with
  | nil => simp [acceptedKeys]
  | cons call calls ih =>
    rw [bookAfter_cons, ih, keysFor_run, acceptedKeys]
    split
    next h => rw [h.2.2, List.nil_append, List.singleton_append]
    next h => rfl

/-- Only the calls for a host touch its entries. -/
theorem keysFor_filter (book book' : KnownHosts) (host : String) (calls : List HostKeyCall)
    (h : book.keysFor crates host = book'.keysFor crates host) :
    (bookAfter crates book calls).keysFor crates host =
      (bookAfter crates book' (calls.filter (fun call => call.host = host))).keysFor crates host := by
  induction calls generalizing book book' with
  | nil => exact h
  | cons call calls ih =>
    by_cases hhost : call.host = host
    · rw [bookAfter_cons, List.filter_cons_of_pos (by simpa using hhost), bookAfter_cons]
      refine ih _ _ ?_
      rw [keysFor_run, keysFor_run, h]
    · rw [bookAfter_cons, List.filter_cons_of_neg (by simpa using hhost)]
      exact ih _ _ ((keysFor_run_other hhost).trans h)

theorem keysFor_bookAfter_nonempty {host : String} (h : book.keysFor crates host ≠ []) (calls : List HostKeyCall) :
    (bookAfter crates book calls).keysFor crates host = book.keysFor crates host := by
  induction calls generalizing book with
  | nil => rfl
  | cons call calls ih =>
    have kept := keysFor_run_nonempty call h
    rw [bookAfter_cons, ih (by rwa [kept]), kept]

/-- A call that fails, or that may not accept new keys, leaves the book as it
was. -/
theorem run_book_unchanged (h : call.acceptNew = false ∨ call.answer crates book ≠ .ok ()) :
    (call.run crates book).2 = book := by
  rw [run_book, if_neg]
  rintro ⟨hnew, hnone⟩
  rcases h with hold | hfail
  · cases hold.symm.trans hnew
  · exact hfail (answer_ok_iff.mpr (.inr ⟨hnew, hnone⟩))

/-- After an `Ok` the host has an entry with the key. -/
theorem carries_after_ok (h : call.answer crates book = .ok ()) :
    Carries ((call.run crates book).2.keysFor crates call.host) call.key := by
  rcases answer_ok_iff.mp h with hcarries | ⟨hnew, hnone⟩
  · have hsome : book.keysFor crates call.host ≠ [] := by
      intro hnil
      rw [hnil] at hcarries
      exact not_carries_nil hcarries
    rwa [keysFor_run_nonempty call hsome]
  · rw [keysFor_run, if_pos ⟨rfl, hnew, hnone⟩]
    simp

/-- The law of a shared book, over every sequence of calls from every book: a
host with entries, of the file or of the run, gets `Ok` only for a key one of
them carries; calls that fail or may not accept leave the later answers alone;
a call for one host leaves the answers of the others alone; and a key accepted
for a host is accepted for it ever after. -/
theorem knownHosts_law (crates : SshCrates) (book : KnownHosts) (before : List HostKeyCall) (call : HostKeyCall) :
    (book.keysFor crates call.host ++ acceptedKeys crates book call.host before ≠ [] →
      call.answer crates (bookAfter crates book before) = .ok () →
      Carries (book.keysFor crates call.host ++ acceptedKeys crates book call.host before) call.key) ∧
    (call.acceptNew = false ∨ call.answer crates (bookAfter crates book before) ≠ .ok () →
      ∀ later, hostKeyAnswers crates (bookAfter crates book (before ++ [call])) later =
        hostKeyAnswers crates (bookAfter crates book before) later) ∧
    (∀ later (other : HostKeyCall), other.host ≠ call.host →
      other.answer crates (bookAfter crates book (before ++ call :: later)) =
        other.answer crates (bookAfter crates book (before ++ later))) ∧
    (call.answer crates (bookAfter crates book before) = .ok () →
      ∀ later (again : HostKeyCall), again.host = call.host → again.key.keyData = call.key.keyData →
        again.answer crates (bookAfter crates book (before ++ call :: later)) = .ok ()) := by
  refine ⟨?_, ?_, ?_, ?_⟩
  · intro hsome hok
    rw [← keysFor_bookAfter] at hsome ⊢
    rcases answer_ok_iff.mp hok with hcarries | ⟨-, hnone⟩
    · exact hcarries
    · exact absurd hnone hsome
  · intro hkeeps later
    rw [bookAfter_append, bookAfter_cons, bookAfter_nil, run_book_unchanged hkeeps]
  · intro later other hother
    refine answer_congr ?_
    rw [keysFor_filter book book other.host _ rfl, keysFor_filter book book other.host (before ++ later) rfl]
    have dropped : ¬call.host = other.host := fun h => hother h.symm
    simp [dropped]
  · intro hok later again hhost hkey
    have carried := carries_after_ok hok
    have hsome : (call.run crates (bookAfter crates book before)).2.keysFor crates call.host ≠ [] := by
      intro hnil
      rw [hnil] at carried
      exact not_carries_nil carried
    refine answer_ok_iff.mpr (.inl ?_)
    rw [bookAfter_append, bookAfter_cons, hhost, keysFor_bookAfter_nonempty hsome]
    obtain ⟨recorded, hr, hdata⟩ := carried
    exact ⟨recorded, hr, hdata.trans hkey.symm⟩

end

/-- Two keys of no host in particular, and a crate that reads empty files. -/
def firstKey : PublicKey := ⟨[1], ""⟩

def secondKey : PublicKey := ⟨[2], "second"⟩

def blankCrates : SshCrates where
  knownHosts _ := []
  hmacSha1 _ _ := none
  fingerprint _ := "SHA256:"

theorem knownHosts_law_second_key :
    HostKeyCall.answer blankCrates (bookAfter blankCrates (.parse blankCrates "") [⟨"10.0.0.9", firstKey, true⟩])
      ⟨"10.0.0.9", secondKey, true⟩ ≠ .ok () := by
  intro hok
  have law := (knownHosts_law blankCrates (.parse blankCrates "") [⟨"10.0.0.9", firstKey, true⟩]
    ⟨"10.0.0.9", secondKey, true⟩).1 (by decide) hok
  revert law
  decide

end AnneDeBreuil
