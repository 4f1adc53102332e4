import Packrat.Pattern.Thread
import Packrat.Proofs.Membership

/-! What a search finds is a match. A pattern matches what its parts match, one after another; every thread
of a search has read what its pattern takes so far, so the match that is left at the end is one. -/
namespace Packrat.Pattern

def previous? (text : List Char) (index : Nat) : Option Char := (text.take index).getLast?

/-- A pattern matches what stands in a text from one index up to another. A repetition stops where it has
as many copies as it may, even if they are not as many as it asks for. -/
inductive Matches (text : List Char) : Pattern → Nat → Nat → Prop
  | empty : Matches text .empty i i
  | textNil : Matches text (.text []) i i
  | textCons : text[i]? = some c → Matches text (.text cs) (i + 1) j → Matches text (.text (c :: cs)) i j
  | set : text[i]? = some c → s.contains c = true → Matches text (.set s) i (i + 1)
  | anchor : a.holds (previous? text i) text[i]? = true → Matches text (.anchor a) i i
  | done : least = 0 ∨ most = some 0 → Matches text (.times body least most greedy) i i
  | copy : most ≠ some 0 → Matches text body i j →
    Matches text (.times body (least - 1) (most.map (· - 1)) greedy) j k →
    Matches text (.times body least most greedy) i k
  | group : Matches text body i j → Matches text (.group number body) i j
  | seqNil : Matches text (.seq []) i i
  | seqCons : Matches text p i j → Matches text (.seq ps) j k → Matches text (.seq (p :: ps)) i k
  | alt : p ∈ branches → Matches text p i j → Matches text (.alt branches) i j

variable {text : List Char} {whole : Pattern}

theorem previous?_succ (here : text[i]? = some c) : previous? text (i + 1) = some c := by
  rw [previous?,List.take_add_one,here,Option.toList_some,List.getLast?_concat]

def Task.pattern : Task → Pattern
  | .read p _ => p
  | .again body _ greedy => .times body 0 none greedy

def Complete (text : List Char) : List Task → Nat → Nat → Prop
  | [], i, k => i = k
  | task :: rest, i, k => ∃ j, Matches text task.pattern i j ∧ Complete text rest j k

/-- A match of the whole pattern from `start` on is complete once the tasks are, from `i` on. -/
def Suffices (text : List Char) (whole : Pattern) (start : Nat) (tasks : List Task) (i : Nat) : Prop :=
  ∀ k, Complete text tasks i k → Matches text whole start k

structure Sound (text : List Char) (whole : Pattern) (i : Nat) (t : Threads) : Prop where
  waiting : ∀ thread ∈ t.waiting, ∀ c, text[i]? = some c → thread.set.contains c = true →
    Suffices text whole thread.start thread.rest (i + 1)
  matched : ∀ start ∈ t.matched, Matches text whole start i

def Keeps (text : List Char) (whole : Pattern) (i : Nat) (f : Threads → Threads) : Prop :=
  ∀ t, Sound text whole i t → Sound text whole i (f t)

section Threads

variable {i : Nat} {copy next : Threads → Threads}

theorem Keeps.pass (go : Keeps text whole i next) (mark : Nat) : Keeps text whole i fun t => t.pass mark next := by
  intro t sound
  simp only [Threads.pass]
  split
  · exact sound
  · exact go _ ⟨sound.waiting,sound.matched⟩

theorem Keeps.wait {thread : Thread} (reads : ∀ c, text[i]? = some c → thread.set.contains c = true →
    Suffices text whole thread.start thread.rest (i + 1)) (mark : Nat) :
    Keeps text whole i fun t => t.wait mark thread := by
  refine Keeps.pass (fun t sound => ?_) mark
  refine ⟨fun other member => ?_,sound.matched⟩
  rcases List.mem_cons.mp member with rfl | old
  · exact reads
  · exact sound.waiting other old

theorem Keeps.prefer (taken : Keeps text whole i copy) (left : Keeps text whole i next) (greedy : Bool) :
    Keeps text whole i (Threads.prefer greedy copy next) := by
  intro t sound
  unfold Threads.prefer
  split
  · exact left _ (taken t sound)
  · exact taken _ (left t sound)

theorem Keeps.finish (found : Matches text whole start i) : Keeps text whole i fun t => t.finish start := by
  intro t sound
  simp only [Threads.finish]
  split
  · exact sound
  · refine ⟨sound.waiting,fun other member => ?_⟩
    obtain rfl := Option.some.inj member
    exact found

end Threads

/-- What reads a pattern keeps threads sound, wherever its match and the tasks behind it suffice. -/
def Faithful (text : List Char) (whole : Pattern) (start i : Nat) (p : Pattern) (walk : Walk) : Prop :=
  ∀ mark rest next, (∀ j, Matches text p i j → Suffices text whole start rest j) →
    (Matches text p i i → Keeps text whole i next) → Keeps text whole i (walk mark rest next)

theorem suffices_cons (task : Task) {rest : List Task}
    (after : ∀ j, Matches text task.pattern i j → Suffices text whole start rest j) :
    Suffices text whole start (task :: rest) i := by
  rintro k ⟨j,taken,complete⟩
  exact after j taken k complete

/-- A pattern suffices for itself. -/
theorem suffices_whole (text : List Char) (whole : Pattern) (i : Nat) : Suffices text whole i [.read whole 0] i :=
  suffices_cons _ fun j taken => by
    rintro k rfl
    exact taken

section Repetition

variable {start i : Nat} {body : Walk} {p : Pattern} {greedy : Bool}

theorem Matches.oneOrMore (first : Matches text p i j) (more : Matches text (.times p 0 none greedy) j k) :
    Matches text (.times p 1 none greedy) i k := .copy (by simp) first more

theorem Matches.anyNumber (found : Matches text (.times p 1 none greedy) i k) :
    Matches text (.times p 0 none greedy) i k := by
  cases found with
  | done enough => simp at enough
  | copy _ first more => exact .copy (by simp) first more

variable (faithful : Faithful text whole start i p body)

include faithful

theorem walkAgain_faithful : Faithful text whole start i (.times p 0 none greedy) (walkAgain body p greedy) := by
  intro mark rest next after go
  have copy := faithful (mark + 1) (.again p mark greedy :: rest) id
    (fun j first => suffices_cons _ fun k more => after k (first.oneOrMore more).anyNumber) fun _ _ sound => sound
  exact (copy.prefer (go (.done (.inl rfl))) greedy).pass mark

theorem walkOneOrMore_faithful : Faithful text whole start i (.times p 1 none greedy) (walkOneOrMore body p greedy) := by
  intro mark rest next after go
  have again (first : Matches text p i i) := walkAgain_faithful faithful mark rest next
    (fun k more => after k (first.oneOrMore more)) fun more => go (first.oneOrMore more)
  exact faithful (mark + 1) _ _ (fun j first => suffices_cons _ fun k more => after k (first.oneOrMore more)) again

theorem walkAtLeast_faithful (least : Nat) :
    Faithful text whole start i (.times p least none greedy) (walkAtLeast body p greedy least) := by
  match least with
  | 0 =>
    rw [walkAtLeast]
    split
    · exact walkAgain_faithful faithful
    · intro mark rest next after go
      have copies : Keeps text whole i (walkOneOrMore body p greedy mark rest next) :=
        walkOneOrMore_faithful faithful mark rest next (fun j more => after j more.anyNumber) fun more => go more.anyNumber
      exact (copies.prefer (go (.done (.inl rfl))) greedy).pass _
  | 1 => exact walkOneOrMore_faithful faithful
  | least + 2 =>
    intro mark rest next after go
    have again (first : Matches text p i i) := walkAtLeast_faithful (least + 1) (mark + p.width + 1) rest next
      (fun k more => after k (.copy (by simp) first more)) fun more => go (.copy (by simp) first more)
    exact faithful (mark + 1) _ _
      (fun j first => suffices_cons _ fun k more => after k (.copy (by simp) first more)) again

theorem walkBetween_faithful (least most : Nat) :
    Faithful text whole start i (.times p least (some most) greedy) (walkBetween body p greedy least most) := by
  induction most generalizing least with
  | zero => exact fun _ _ _ _ go => go (.done (.inr rfl))
  | succ most ih =>
    intro mark rest next after go
    have again (first : Matches text p i i) := ih (least - 1) (mark + p.width + 1) rest next
      (fun k more => after k (.copy (by simp) first more)) fun more => go (.copy (by simp) first more)
    have copy := faithful (mark + 1) (.read (.times p (least - 1) (some most) greedy) (mark + p.width + 1) :: rest) _
      (fun j first => suffices_cons _ fun k more => after k (.copy (by simp) first more)) again
    simp only [walkBetween]
    split
    · rename_i zero
      exact (copy.prefer (go (.done (.inl zero))) greedy).pass mark
    · exact copy

end Repetition

section Walk

variable {start i : Nat}

def Spot.ofIndex (text : List Char) (start i : Nat) : Spot := ⟨start,previous? text i,text[i]?⟩

mutual

/-- A walk reads its pattern. -/
theorem walk_faithful : ∀ p : Pattern, Faithful text whole start i p (walk (.ofIndex text start i) p)
  | .empty => fun _ _ _ _ go => go .empty
  | .text [] => fun _ _ _ _ go => go .textNil
  | .text (c :: cs) => by
    intro mark rest next after go
    refine Keeps.wait (fun d here known => ?_) mark
    obtain rfl := (Text.CodeSet.contains_single c d).mp known
    exact suffices_cons _ fun j more => after j (.textCons here more)
  | .set s => fun mark _ _ after _ => .wait (fun c here known => after (i + 1) (.set here known)) mark
  | .anchor a => by
    intro mark rest next after go t sound
    simp only [walk]
    split
    · rename_i holds
      exact go (.anchor holds) t sound
    · exact sound
  | .times body least none greedy => walkAtLeast_faithful (walk_faithful body) least
  | .times body least (some most) greedy => walkBetween_faithful (walk_faithful body) least most
  | .group _ body => fun mark rest next after go =>
    walk_faithful body mark rest next (fun j taken => after j (.group taken)) fun taken => go (.group taken)
  | .seq parts => walkAll_faithful parts
  | .alt branches => fun mark rest next after go => (walkAny_faithful branches (mark + 1) rest next after go).pass mark

theorem walkAll_faithful : ∀ ps : List Pattern, Faithful text whole start i (.seq ps) (walkAll (.ofIndex text start i) ps)
  | [] => fun _ _ _ _ go => go .seqNil
  | p :: ps => fun mark rest next after go =>
    walk_faithful p mark _ _ (fun _ first => suffices_cons _ fun k more => after k (.seqCons first more))
      fun first => walkAll_faithful ps _ rest next (fun k more => after k (.seqCons first more))
        fun more => go (.seqCons first more)

theorem walkAny_faithful : ∀ ps : List Pattern, Faithful text whole start i (.alt ps) (walkAny (.ofIndex text start i) ps)
  | [] => fun _ _ _ _ _ _ sound => sound
  | p :: ps => by
    intro mark rest next after go t sound
    have later {j : Nat} (taken : Matches text (.alt ps) i j) : Matches text (.alt (p :: ps)) i j := by
      cases taken with
      | alt member taken => exact .alt (List.mem_cons_of_mem p member) taken
    have first := walk_faithful p mark rest next (fun j taken => after j (.alt List.mem_cons_self taken))
      (fun taken => go (.alt List.mem_cons_self taken)) t sound
    exact walkAny_faithful ps _ rest next (fun j taken => after j (later taken)) (fun taken => go (later taken)) _ first

end

/-- Tasks are taken up where they suffice. -/
theorem resume_keeps (tasks : List Task) (after : Suffices text whole start tasks i) :
    Keeps text whole i (resume (.ofIndex text start i) tasks) := by
  induction tasks with
  | nil => exact .finish (after i rfl)
  | cons task rest ih =>
    have resumes : ∀ j, Matches text task.pattern i j → Suffices text whole start rest j :=
      fun j taken k complete => after k ⟨j,taken,complete⟩
    cases task with
    | read p mark => exact walk_faithful p mark rest _ resumes fun taken => ih (resumes i taken)
    | again p mark greedy =>
      exact walkAgain_faithful (walk_faithful p) mark rest _ resumes fun taken => ih (resumes i taken)

end Walk

/-- After a character, threads go on from where those that waited for it were. -/
theorem Sound.advance (sound : Sound text whole i t) (here : text[i]? = some c) :
    Sound text whole (i + 1) (t.advance c text[i + 1]?) := by
  unfold Threads.advance
  obtain ⟨waiting,_,_⟩ := t
  have waits := sound.waiting
  dsimp only at waits ⊢
  clear sound
  induction waiting with
  | nil => exact ⟨by simp,by simp⟩
  | cons thread waiting ih =>
    have later := ih fun other member => waits other (List.mem_cons_of_mem thread member)
    rw [List.foldr_cons]
    split
    · rename_i known
      have resumed := resume_keeps thread.rest (waits thread List.mem_cons_self c here known) _ later
      rwa [Spot.ofIndex,previous?_succ here] at resumed
    · exact later

theorem scan_matches {bound : Bool} {t : Threads} {best : Option Found} (sound : Sound text whole i t)
    (known : ∀ f ∈ best, Matches text whole f.start f.stop) (behind : text.drop i = cs)
    (found : scan whole bound i t best cs = some f) : Matches text whole f.start f.stop := by
  have better {i : Nat} {t : Threads} {best : Option Found} (sound : Sound text whole i t)
      (known : ∀ f ∈ best, Matches text whole f.start f.stop) :
      ∀ f ∈ (t.matched.map (Found.mk · i)).or best, Matches text whole f.start f.stop := by
    intro f member
    rcases Option.or_eq_some_iff.mp member with here | ⟨_,earlier⟩
    · obtain ⟨start,matched,rfl⟩ := Option.map_eq_some_iff.mp here
      exact sound.matched start matched
    · exact known f earlier
  induction cs generalizing i t best with
  | nil => exact better sound known f found
  | cons c cs ih =>
    have here : text[i]? = some c := by rw [← List.head?_drop,behind,List.head?_cons]
    have behind' : text.drop (i + 1) = cs := by rw [← List.tail_drop,behind,List.tail_cons]
    have next : cs.head? = text[i + 1]? := by rw [← behind',List.head?_drop]
    have later := sound.advance here
    rw [← next] at later
    rw [scan] at found
    dsimp only at found
    split at found
    · split at found
      · exact better sound known f found
      · exact ih later (better sound known) behind' found
    · -- No match is known yet, so one may begin here as well.
      have begun := resume_keeps _ (suffices_whole text whole (i + 1)) _ later
      rw [Spot.ofIndex,previous?_succ here,← next] at begun
      exact ih begun (better sound known) behind' found

/-- What a search finds is a match. -/
theorem find?_matches {p : Pattern} (found : p.find? text = some f) : Matches text p f.start f.stop := by
  have begun := resume_keeps _ (suffices_whole text p 0) {} ⟨by simp,by simp⟩
  have nothing : ∀ f ∈ (none : Option Found), Matches text p f.start f.stop := by simp
  rw [find?,List.head?_eq_getElem?] at found
  exact scan_matches begun nothing List.drop_zero found

end Packrat.Pattern
