import Mathlib.Data.List.Induction
import Packrat.Lexeme
import Packrat.Proofs.Offset

/-! What the lexemes of an input are. They are the only way to cut the input into separators and
tokens where each token is the one preferred at its place; if there is none, the scan stops after
the longest such beginning. -/
namespace Packrat

namespace Pattern

theorem Threads.matched_stop_le (t : Threads) {best : Option Found} (known : ∀ b ∈ best, b.stop ≤ index) :
    ∀ b ∈ (t.matched.map (Found.mk · index)).or best, b.stop ≤ index := by
  intro b member
  cases matched : t.matched with
  | none =>
    rw [matched] at member
    exact known b member
  | some start =>
    rw [matched] at member
    obtain rfl := Option.some.inj member
    exact Nat.le_refl _

theorem scan_stop_le {p : Pattern} {bound : Bool} {threads : Threads} {best : Option Found} {text : List Char}
    (known : ∀ b ∈ best, b.stop ≤ index) (found : scan p bound index threads best text = some f) :
    f.stop ≤ index + text.length := by
  induction text generalizing index threads best with
  | nil => exact threads.matched_stop_le known f found
  | cons c rest ih =>
    have better := threads.matched_stop_le known
    have later := fun b member => Nat.le_succ_of_le (better b member)
    rw [List.length_cons]
    simp only [scan] at found
    split at found
    · split at found
      · have := better f found
        omega
      · have := ih later found
        omega
    · have := ih later found
      omega

theorem find?_stop_le {p : Pattern} {text : List Char} (found : p.find? text = some f) :
    f.stop ≤ text.length := by
  have nothing : ∀ b ∈ (none : Option Found), b.stop ≤ 0 := by simp
  have := scan_stop_le nothing found
  omega

end Pattern

namespace Token

/-- A token takes at least one character, and none past the end of the input. -/
theorem lengthAt?_bounds {t : Token} {cut : Text.Cut} (found : t.lengthAt? cut = some length) :
    0 < length ∧ length ≤ cut.after.length := by
  unfold lengthAt? at found
  split at found
  · cases found
  · rename_i f matched
    have within := Pattern.find?_stop_le matched
    split at found
    · cases found
    rename_i taken
    split at found
    · cases found
    split at found
    · cases found
    obtain rfl := Option.some.inj found
    rw [Bool.or_eq_true,not_or,decide_eq_true_iff] at taken
    exact ⟨Nat.pos_of_ne_zero taken.1,within⟩

theorem endAt?_cut (t : Token) {input : String} (cut : input.toList = before.reverse ++ after) :
    t.endAt? input (Text.byteSize before) =
      (t.lengthAt? ⟨before,after⟩).map fun length =>
        Text.byteSize before + Text.byteSize (after.take length) := by
  have place := Text.cutAt?_append before.reverse after
  rw [← cut,Text.byteSize_reverse,List.reverse_reverse] at place
  unfold endAt?
  rw [place]
  cases found : t.lengthAt? ⟨before,after⟩ <;> simp [found]

end Token

namespace Lexeme

/-- A token of a list that comes before another one where both match: it has the higher priority, or
is longer, or else is the first of them. -/
def Precedes (t : Token) (size index : Nat) (other : Token) (size' index' : Nat) : Prop :=
  other.priority < t.priority ∨ other.priority = t.priority ∧ (size' < size ∨ size' = size ∧ index ≤ index')

theorem Precedes.antisymm (first : Precedes t size index other size' index')
    (second : Precedes other size' index' t size index) : size = size' ∧ index = index' := by
  unfold Precedes at first second
  rw [Int32.lt_iff_toInt_lt,← Int32.toInt_inj] at first second
  omega

theorem Precedes.refl (t : Token) (size index : Nat) : Precedes t size index t size index :=
  .inr ⟨rfl,.inr ⟨rfl,Nat.le_refl _⟩⟩

theorem Precedes.trans (first : Precedes t size index other size' index')
    (second : Precedes other size' index' another size'' index'') :
    Precedes t size index another size'' index'' := by
  unfold Precedes at first second ⊢
  rw [Int32.lt_iff_toInt_lt,← Int32.toInt_inj] at first second ⊢
  omega

theorem wins_iff (t : Token) (length : Nat) (best : Token) (bestLength : Nat) (later : index < index') :
    (wins t length (some (best,bestLength)) = true → Precedes t length index' best bestLength index) ∧
    (wins t length (some (best,bestLength)) = false → Precedes best bestLength index t length index') := by
  unfold wins Precedes
  simp only [Bool.or_eq_true,Bool.and_eq_true,Bool.or_eq_false_iff,Bool.and_eq_false_iff,decide_eq_true_iff,
    decide_eq_false_iff_not,beq_iff_eq,beq_eq_false_iff_ne,ne_eq,Int32.lt_iff_toInt_lt,← Int32.toInt_inj]
  omega

structure Leads (reach : Token → Option Nat) (tokens : List Token) (index : Nat) (t : Token) (size : Nat) :
    Prop where
  listed : tokens[index]? = some t
  found : reach t = some size
  precedes : ∀ {index' other size'}, tokens[index']? = some other → reach other = some size' →
    Precedes t size index other size' index'

namespace Leads

variable {reach : Token → Option Nat} {tokens : List Token}

theorem unique (leads : Leads reach tokens index t size) (leads' : Leads reach tokens index' t' size') :
    t = t' ∧ size = size' := by
  obtain ⟨same,rfl⟩ := (leads.precedes leads'.listed leads'.found).antisymm
    (leads'.precedes leads.listed leads.found)
  exact ⟨Option.some.inj (leads.listed.symm.trans leads'.listed),same⟩

theorem index_lt (leads : Leads reach tokens index t size) : index < tokens.length :=
  (List.getElem?_eq_some_iff.mp leads.listed).1

theorem listed_concat (listed : (tokens ++ [last])[index]? = some t) :
    tokens[index]? = some t ∨ index = tokens.length ∧ t = last := by
  rcases Nat.lt_trichotomy index tokens.length with before | rfl | after
  · rw [List.getElem?_append_left before] at listed
    exact .inl listed
  · rw [List.getElem?_concat_length] at listed
    exact .inr ⟨rfl,(Option.some.inj listed).symm⟩
  · rw [List.getElem?_eq_none (by rw [List.length_append,List.length_singleton]; omega)] at listed
    cases listed

/-- A token added at the end does not take the place of one that precedes it. -/
theorem keep (leads : Leads reach tokens index t size)
    (precedes : ∀ {size'}, reach last = some size' → Precedes t size index last size' tokens.length) :
    Leads reach (tokens ++ [last]) index t size where
  listed := by rw [List.getElem?_append_left leads.index_lt]; exact leads.listed
  found := leads.found
  precedes listed found := by
    rcases listed_concat listed with old | ⟨rfl,rfl⟩
    · exact leads.precedes old found
    · exact precedes found

/-- A token added at the end leads if it precedes the one that led. -/
theorem replace (found : reach last = some size)
    (precedes : ∀ {index' other size'}, tokens[index']? = some other → reach other = some size' →
      Precedes last size tokens.length other size' index') :
    Leads reach (tokens ++ [last]) tokens.length last size where
  listed := List.getElem?_concat_length
  found := found
  precedes listed found' := by
    rcases listed_concat listed with old | ⟨rfl,rfl⟩
    · exact precedes old found'
    · obtain rfl := Option.some.inj (found.symm.trans found')
      exact .refl _ _ _

/-- To lead by one measure is to lead by another one that grows with it. -/
theorem map {measure : Nat → Nat} (leads : Leads reach tokens index t size)
    (mono : ∀ {t t' m n}, reach t = some m → reach t' = some n → m < n → measure m < measure n) :
    Leads (fun t => (reach t).map measure) tokens index t (measure size) where
  listed := leads.listed
  found := by rw [leads.found]; rfl
  precedes listed found := by
    obtain ⟨size',found',rfl⟩ := Option.map_eq_some_iff.mp found
    rcases leads.precedes listed found' with higher | ⟨same,longer | ⟨rfl,earlier⟩⟩
    · exact .inl higher
    · exact .inr ⟨same,.inl (mono found' leads.found longer)⟩
    · exact .inr ⟨same,.inr ⟨rfl,earlier⟩⟩

end Leads

theorem best?_concat (tokens : List Token) (last : Token) (cut : Text.Cut) :
    best? (tokens ++ [last]) cut = match last.lengthAt? cut with
      | none => best? tokens cut
      | some length => if wins last length (best? tokens cut) then some (last,length) else best? tokens cut := by
  rw [best?,List.foldl_append]
  rfl

/-- The token that takes a place is the one that leads there; none takes it if none matches. -/
theorem best?_leads (tokens : List Token) (cut : Text.Cut) :
    match best? tokens cut with
    | none => ∀ t ∈ tokens, t.lengthAt? cut = none
    | some (t,length) => ∃ index, Leads (·.lengthAt? cut) tokens index t length := by
  induction tokens using List.reverseRecOn with
  | nil => exact fun t member => nomatch member
  | append_singleton tokens last ih =>
    rw [best?_concat]
    cases matched : last.lengthAt? cut with
    | none =>
      dsimp only
      cases best : best? tokens cut with
      | none =>
        rw [best] at ih
        intro t member
        rcases List.mem_append.mp member with old | new
        · exact ih t old
        · obtain rfl := List.mem_singleton.mp new
          exact matched
      | some found =>
        rw [best] at ih
        obtain ⟨index,leads⟩ := ih
        exact ⟨index,leads.keep fun found => nomatch matched.symm.trans found⟩
    | some length =>
      dsimp only
      cases best : best? tokens cut with
      | none =>
        rw [best] at ih
        refine ⟨tokens.length,.replace matched fun {index' other size'} listed found => ?_⟩
        have := ih other (List.mem_of_getElem? listed)
        cases this.symm.trans found
      | some found =>
        rw [best] at ih
        obtain ⟨index,leads⟩ := ih
        have order := wins_iff last length found.1 found.2 leads.index_lt
        cases won : wins last length (some found) with
        | true =>
          refine ⟨tokens.length,.replace matched fun listed found' => ?_⟩
          exact (order.1 won).trans (leads.precedes listed found')
        | false =>
          refine ⟨index,leads.keep fun found' => ?_⟩
          obtain rfl := Option.some.inj (matched.symm.trans found')
          exact order.2 won

section Segments

variable (tokens : List Token) (input : String)

def Blank (start stop : Nat) : Prop :=
  ∃ gap, Text.Between input.toList start stop gap ∧ ∀ c ∈ gap, isSeparator c = true

def Solid (c : Char) (offset : Nat) : Prop :=
  Text.Between input.toList offset (offset + c.utf8Size) [c] ∧ isSeparator c = false

structure Stuck (c : Char) (offset : Nat) : Prop where
  solid : Solid input c offset
  unmatched : ∀ t ∈ tokens, t.endAt? input offset = none

/-- A lexeme is a piece of the input that does not begin with a separator, and of the token that
leads all those that match where it starts. -/
structure Proper (l : Lexeme) : Prop where
  text : Text.Between input.toList l.start l.stop l.text.toList
  head : ∃ c rest, l.text.toList = c :: rest ∧ isSeparator c = false
  leads : ∃ index t, Leads (·.endAt? input l.start) tokens index t l.stop ∧ l.kind = t.name

/-- Lexemes that follow one another between two byte offsets, with separators before, between and
after them. -/
def Segments : (start : Nat) → (lexemes : List Lexeme) → (stop : Nat) → Prop
  | start, [], stop => Blank input start stop
  | start, l :: rest, stop => Blank input start l.start ∧ Proper tokens input l ∧ Segments l.stop rest stop

variable {tokens input} {start middle stop stop' offset : Nat} {lexemes lexemes' : List Lexeme}

theorem Blank.le (blank : Blank input start stop) : start ≤ stop := by
  obtain ⟨gap,stands,_⟩ := blank
  rw [stands.stop_eq]
  exact Nat.le_add_right _ _

theorem Blank.trans (first : Blank input start middle) (second : Blank input middle stop) :
    Blank input start stop := by
  obtain ⟨gap,stands,separators⟩ := first
  obtain ⟨gap',stands',separators'⟩ := second
  refine ⟨gap ++ gap',stands.append stands',fun c member => ?_⟩
  rcases List.mem_append.mp member with before | after
  · exact separators c before
  · exact separators' c after

theorem Solid.lt_size (solid : Solid input c offset) : offset < Text.byteSize input.toList := by
  have := solid.1.stop_le
  have := c.utf8Size_pos
  omega

/-- Separators end where another character stands. -/
theorem Blank.le_of_solid (blank : Blank input start stop) (solid : Solid input c offset)
    (begun : start ≤ offset) : stop ≤ offset := by
  obtain ⟨gap,stands,separators⟩ := blank
  by_cases upTo : offset < stop
  · have separator := separators c (stands.mem solid.1 begun upTo)
    rw [solid.2] at separator
    cases separator
  · exact Nat.le_of_not_lt upTo

theorem Proper.solid (proper : Proper tokens input l) : ∃ c, Solid input c l.start := by
  obtain ⟨c,rest,text,solid⟩ := proper.head
  obtain ⟨before,after,eq,size,_⟩ := proper.text
  refine ⟨c,⟨before,rest ++ after,?_,size,by simp⟩,solid⟩
  rw [eq,text]
  simp

theorem Proper.lt (proper : Proper tokens input l) : l.start < l.stop := by
  obtain ⟨c,rest,text,_⟩ := proper.head
  have size := Text.byteSize_pos (List.cons_ne_nil c rest)
  rw [proper.text.stop_eq,text]
  omega

theorem Segments.le (segments : Segments tokens input start lexemes stop) : start ≤ stop := by
  induction lexemes generalizing start with
  | nil => exact Blank.le segments
  | cons l rest ih =>
    obtain ⟨blank,proper,more⟩ := segments
    have := blank.le
    have := proper.lt
    have := ih more
    omega

/-- The first lexeme is told by where the separators end. -/
theorem Proper.unique (proper : Proper tokens input l) (proper' : Proper tokens input l')
    (same : l.start = l'.start) : l = l' := by
  obtain ⟨index,t,leads,kind⟩ := proper.leads
  obtain ⟨index',t',leads',kind'⟩ := proper'.leads
  rw [← same] at leads'
  obtain ⟨rfl,stop⟩ := leads.unique leads'
  have text' := proper'.text
  rw [← same,← stop] at text'
  have text := String.toList_inj.mp (proper.text.unique text')
  cases l
  cases l'
  simp_all

/-- Lexemes that go on to the end of the input, or to a place where no token matches, are the longest
there are. -/
theorem Segments.longest (segments : Segments tokens input start lexemes stop)
    (final : stop = Text.byteSize input.toList ∨ ∃ c, Stuck tokens input c stop)
    (others : Segments tokens input start lexemes' stop') : lexemes' <+: lexemes ∧ stop' ≤ stop := by
  induction lexemes generalizing start lexemes' with
  | nil =>
    have blank : Blank input start stop := segments
    cases lexemes' with
    | nil =>
      refine ⟨List.prefix_refl _,?_⟩
      have blank' : Blank input start stop' := others
      rcases final with rfl | ⟨c,stuck⟩
      · obtain ⟨gap,stands,_⟩ := blank'
        exact stands.stop_le
      · exact blank'.le_of_solid stuck.solid blank.le
    | cons l' rest' =>
      -- The other lexeme would start where nothing is left, or where no token matches.
      obtain ⟨blank',proper',_⟩ := others
      obtain ⟨c',solid'⟩ := proper'.solid
      have upTo := blank.le_of_solid solid' blank'.le
      rcases final with rfl | ⟨c,stuck⟩
      · have := solid'.lt_size
        omega
      · have begun := blank'.le_of_solid stuck.solid blank.le
        obtain rfl : stop = l'.start := by omega
        obtain ⟨index,t,leads,_⟩ := proper'.leads
        have unmatched := stuck.unmatched t (List.mem_of_getElem? leads.listed)
        cases unmatched.symm.trans leads.found
  | cons l rest ih =>
    obtain ⟨blank,proper,more⟩ := segments
    obtain ⟨c,solid⟩ := proper.solid
    cases lexemes' with
    | nil =>
      have upTo := Blank.le_of_solid others solid blank.le
      have := proper.lt
      have := more.le
      exact ⟨List.nil_prefix,by omega⟩
    | cons l' rest' =>
      obtain ⟨blank',proper',more'⟩ := others
      obtain ⟨c',solid'⟩ := proper'.solid
      -- Both start where the separators end, so they are the same.
      have first := blank.le_of_solid solid' blank'.le
      have first' := blank'.le_of_solid solid blank.le
      obtain rfl := proper.unique proper' (by omega)
      obtain ⟨shared,upTo⟩ := ih more more'
      exact ⟨List.cons_prefix_cons.mpr ⟨rfl,shared⟩,upTo⟩

def weave (lead : List Char) (lexemes : List Lexeme) (gaps : List (List Char)) : List Char :=
  lead ++ (List.zipWith (fun l gap => l.text.toList ++ gap) lexemes gaps).flatten

theorem Segments.weave (segments : Segments tokens input start lexemes stop) :
    ∃ lead gaps, gaps.length = lexemes.length ∧ (∀ gap ∈ lead :: gaps, ∀ c ∈ gap, isSeparator c = true) ∧
      Text.Between input.toList start stop (weave lead lexemes gaps) := by
  induction lexemes generalizing start with
  | nil =>
    obtain ⟨gap,stands,separators⟩ := segments
    exact ⟨gap,[],rfl,by simpa using separators,by simpa [Lexeme.weave] using stands⟩
  | cons l rest ih =>
    obtain ⟨⟨lead,stands,separators⟩,proper,more⟩ := segments
    obtain ⟨gap,gaps,length,separators',stands'⟩ := ih more
    refine ⟨lead,gap :: gaps,by simp [length],?_,?_⟩
    · intro gap' member
      rcases List.mem_cons.mp member with rfl | later
      · exact separators
      · exact separators' gap' later
    · have whole := stands.append (proper.text.append stands')
      simpa [Lexeme.weave] using whole

end Segments

section Scan

variable {tokens : List Token} {input : String} {start middle stop : Nat} {lexemes : List Lexeme}

def Scan.Reaches (tokens : List Token) (input : String) (start : Nat) (s : Scan) : Prop :=
  match s.stuck with
  | none => Segments tokens input start s.lexemes (Text.byteSize input.toList)
  | some (c,stop) => Segments tokens input start s.lexemes stop ∧ Stuck tokens input c stop

theorem Segments.extend (blank : Blank input start middle) (segments : Segments tokens input middle lexemes stop) :
    Segments tokens input start lexemes stop := by
  cases lexemes with
  | nil => exact blank.trans segments
  | cons l rest => exact ⟨blank.trans segments.1,segments.2⟩

theorem Scan.Reaches.extend {s : Scan} (blank : Blank input start middle) (reaches : s.Reaches tokens input middle) :
    s.Reaches tokens input start := by
  unfold Reaches at reaches ⊢
  split
  · rename_i ended
    rw [ended] at reaches
    exact reaches.extend blank
  · rename_i stopped
    rw [stopped] at reaches
    exact ⟨reaches.1.extend blank,reaches.2⟩

theorem Scan.Reaches.cons {s : Scan} (proper : Proper tokens input l) (reaches : s.Reaches tokens input l.stop) :
    Scan.Reaches tokens input l.start { s with lexemes := l :: s.lexemes } := by
  have here : Blank input l.start l.start := by
    obtain ⟨before,after,eq,size,_⟩ := proper.text
    exact ⟨[],⟨before,l.text.toList ++ after,by rw [eq]; simp,size,rfl⟩,by simp⟩
  unfold Reaches at reaches ⊢
  dsimp only
  split
  · rename_i ended
    rw [ended] at reaches
    exact ⟨here,proper,reaches⟩
  · rename_i stopped
    rw [stopped] at reaches
    exact ⟨⟨here,proper,reaches.1⟩,reaches.2⟩

theorem proper_of_leads {rest : List Char} (text : input.toList = before.reverse ++ c :: rest)
    (solid : isSeparator c = false) (leads : Leads (·.lengthAt? ⟨before,c :: rest⟩) tokens index t length) :
    Proper tokens input ⟨t.name,String.ofList ((c :: rest).take length),Text.byteSize before,
      Text.byteSize before + Text.byteSize ((c :: rest).take length)⟩ := by
  obtain ⟨pos,within⟩ := Token.lengthAt?_bounds leads.found
  refine ⟨?_,?_,index,t,?_,rfl⟩
  · refine ⟨before.reverse,(c :: rest).drop length,?_,Text.byteSize_reverse before,by simp⟩
    rw [String.toList_ofList,List.append_assoc,List.take_append_drop,text]
  · obtain ⟨more,rfl⟩ := Nat.exists_eq_succ_of_ne_zero (Nat.ne_of_gt pos)
    exact ⟨c,rest.take more,by simp,solid⟩
  · simp only [Token.endAt?_cut _ text]
    refine leads.map fun {t t' m n} found found' less => ?_
    have bound : n ≤ (c :: rest).length := (Token.lengthAt?_bounds found').2
    exact Nat.add_lt_add_left (Text.byteSize_take_lt less bound) _

theorem scanFrom_reaches (fuel : Nat) (before after : List Char) (text : input.toList = before.reverse ++ after)
    (enough : after.length ≤ fuel) :
    (scanFrom tokens fuel before after (Text.byteSize before)).Reaches tokens input (Text.byteSize before) := by
  induction fuel generalizing before after with
  | zero =>
    -- Fuel runs out at the end of the input only: every step takes a character.
    obtain rfl := List.length_eq_zero_iff.mp (Nat.le_zero.mp enough)
    rw [List.append_nil] at text
    exact ⟨[],⟨before.reverse,[],by simp [text],by simp,by simp [text]⟩,by simp⟩
  | succ fuel ih =>
    cases after with
    | nil =>
      rw [List.append_nil] at text
      exact ⟨[],⟨before.reverse,[],by simp [text],by simp,by simp [text]⟩,by simp⟩
    | cons c rest =>
      have here : Text.Between input.toList (Text.byteSize before) (Text.byteSize before + c.utf8Size) [c] :=
        ⟨before.reverse,rest,by simp [text],by simp,by simp⟩
      rw [List.length_cons] at enough
      rw [scanFrom]
      split
      · rename_i separator
        have more := ih (c :: before) rest (by simp [text]) (by omega)
        rw [Text.byteSize_cons,Nat.add_comm] at more
        exact more.extend ⟨[c],here,by simpa using separator⟩
      · rename_i solid
        rw [Bool.not_eq_true] at solid
        have spec := best?_leads tokens ⟨before,c :: rest⟩
        cases best : best? tokens ⟨before,c :: rest⟩ with
        | none =>
          rw [best] at spec
          refine ⟨⟨[],⟨before.reverse,c :: rest,by simp [text],by simp,rfl⟩,by simp⟩,⟨here,solid⟩,?_⟩
          intro t member
          rw [Token.endAt?_cut t text,spec t member]
          rfl
        | some found =>
          obtain ⟨t,length⟩ := found
          rw [best] at spec
          obtain ⟨index,leads⟩ := spec
          obtain ⟨pos,within⟩ := Token.lengthAt?_bounds leads.found
          have more := ih (shift before ((c :: rest).take length)) ((c :: rest).drop length)
            (by simp [shift,text,List.take_append_drop]) (by simp; omega)
          rw [shift,Text.byteSize_append,Text.byteSize_reverse,Nat.add_comm] at more
          exact .cons (proper_of_leads text solid leads) more

theorem scan_reaches (tokens : List Token) (input : String) : (scan tokens input).Reaches tokens input 0 :=
  scanFrom_reaches input.toList.length [] input.toList rfl (Nat.le_refl _)

end Scan

end Lexeme

namespace Grammar

open Lexeme

/-- The lexemes of an input go on to its end, or else to the character that the error is about. -/
theorem tokenize_cases (g : Grammar) (input : String) :
    (∃ lexemes, g.tokenize input = .ok lexemes ∧ Segments g.tokens input 0 lexemes (Text.byteSize input.toList)) ∨
    ∃ lexemes c offset, g.tokenize input = .error (unmatched input c offset) ∧
      Segments g.tokens input 0 lexemes offset ∧ Stuck g.tokens input c offset := by
  have reaches := scan_reaches g.tokens input
  unfold tokenize Scan.result
  unfold Scan.Reaches at reaches
  cases stopped : (scan g.tokens input).stuck with
  | none =>
    rw [stopped] at reaches
    exact .inl ⟨_,rfl,reaches⟩
  | some place =>
    obtain ⟨c,offset⟩ := place
    rw [stopped] at reaches
    exact .inr ⟨_,c,offset,rfl,reaches⟩

theorem tokenize_eq_ok_iff (g : Grammar) (input : String) (lexemes : List Lexeme) :
    g.tokenize input = .ok lexemes ↔ Segments g.tokens input 0 lexemes (Text.byteSize input.toList) := by
  rcases tokenize_cases g input with ⟨found,tokenized,whole⟩ | ⟨found,c,offset,failed,begun,stuck⟩
  · rw [tokenized]
    constructor
    · intro eq
      rwa [← Except.ok.inj eq]
    · intro segments
      have upTo := (whole.longest (.inl rfl) segments).1
      have shared := (segments.longest (.inl rfl) whole).1
      rw [upTo.eq_of_length_le shared.length_le]
  · rw [failed]
    constructor
    · intro eq
      cases eq
    · intro segments
      -- Lexemes cannot go on past the place where no token matches.
      have := (begun.longest (.inr ⟨c,stuck⟩) segments).2
      have := stuck.solid.lt_size
      omega

/-- The lexemes of an input are the only way to cut it up: separators before, between and after
them, and each of the token that leads where it starts. If there is no way, the error is at the end
of the longest beginning of one, at the character that no token matches. -/
theorem tokenize_segments (g : Grammar) (input : String) :
    (∀ lexemes, g.tokenize input = .ok lexemes ↔
      Segments g.tokens input 0 lexemes (Text.byteSize input.toList) ∧
        ∀ others, Segments g.tokens input 0 others (Text.byteSize input.toList) → others = lexemes) ∧
    ((¬∃! lexemes, Segments g.tokens input 0 lexemes (Text.byteSize input.toList)) →
      ∃ e lexemes c, g.tokenize input = .error e ∧ e.kind = .tokenize ∧ e.token = c.toString ∧
        Segments g.tokens input 0 lexemes e.offset ∧ Stuck g.tokens input c e.offset ∧
        ∀ others stop, Segments g.tokens input 0 others stop → others <+: lexemes ∧ stop ≤ e.offset) ∧
    (∀ lexemes, g.tokenize input = .ok lexemes → ∃ lead gaps, gaps.length = lexemes.length ∧
      (∀ gap ∈ lead :: gaps, ∀ c ∈ gap, isSeparator c = true) ∧ input.toList = weave lead lexemes gaps) := by
  have unique {lexemes others : List Lexeme} (segments : Segments g.tokens input 0 lexemes (Text.byteSize input.toList))
      (segments' : Segments g.tokens input 0 others (Text.byteSize input.toList)) : others = lexemes := by
    rw [← tokenize_eq_ok_iff] at segments segments'
    exact Except.ok.inj (segments'.symm.trans segments)
  refine ⟨fun lexemes => ?_,fun unsegmented => ?_,fun lexemes tokenized => ?_⟩
  · rw [tokenize_eq_ok_iff]
    exact ⟨fun segments => ⟨segments,fun _ segments' => unique segments segments'⟩,And.left⟩
  · rcases tokenize_cases g input with ⟨found,_,whole⟩ | ⟨found,c,offset,failed,begun,stuck⟩
    · exact absurd ⟨found,whole,fun _ segments => unique whole segments⟩ unsegmented
    · exact ⟨_,found,c,failed,rfl,rfl,begun,stuck,fun _ _ segments => begun.longest (.inr ⟨c,stuck⟩) segments⟩
  · rw [tokenize_eq_ok_iff] at tokenized
    obtain ⟨lead,gaps,length,separators,stands⟩ := tokenized.weave
    exact ⟨lead,gaps,length,separators,(Text.Between.whole _).unique stands⟩

def conditional : Grammar where
  tokens := [⟨"WORD","[fi]+",0,.pattern,none,none,
      .seq [.anchor .textStart,.times (.set (.ofChars ['f','i'])) 1 none true],none,none⟩,
    ⟨"IF","if",90,.keyword,none,none,
      .seq [.anchor .textStart,.set (.ofChars ['i']),.set (.ofChars ['f'])],none,none⟩]

theorem tokenize_segments_conditional :
    conditional.tokenize "fi if " = .ok [⟨"WORD","fi",0,2⟩,⟨"IF","if",3,5⟩] ∧
    Segments conditional.tokens "fi if " 0 [⟨"WORD","fi",0,2⟩,⟨"IF","if",3,5⟩] (Text.byteSize "fi if ".toList) ∧
    (∃ lead gaps, gaps.length = 2 ∧ (∀ gap ∈ lead :: gaps, ∀ c ∈ gap, isSeparator c = true) ∧
      "fi if ".toList = weave lead [⟨"WORD","fi",0,2⟩,⟨"IF","if",3,5⟩] gaps) ∧
    (¬∃! lexemes, Segments conditional.tokens "if é if" 0 lexemes (Text.byteSize "if é if".toList)) ∧
    conditional.tokenize "if é if" = .error (unmatched "if é if" 'é' 3) ∧
    ∃ lexemes c, Segments conditional.tokens "if é if" 0 lexemes 3 ∧ Stuck conditional.tokens "if é if" c 3 := by
  have scanned : scan conditional.tokens "fi if " = ⟨[⟨"WORD","fi",0,2⟩,⟨"IF","if",3,5⟩],none⟩ := by
    decide +kernel
  have stopped : scan conditional.tokens "if é if" = ⟨[⟨"IF","if",0,2⟩],some ('é',3)⟩ := by decide +kernel
  have tokenized : conditional.tokenize "fi if " = .ok [⟨"WORD","fi",0,2⟩,⟨"IF","if",3,5⟩] := by
    rw [tokenize,scanned]
    rfl
  have failed : conditional.tokenize "if é if" = .error (unmatched "if é if" 'é' 3) := by
    rw [tokenize,stopped]
    rfl
  have unsegmented : ¬∃! lexemes, Segments conditional.tokens "if é if" 0 lexemes (Text.byteSize "if é if".toList) := by
    rintro ⟨lexemes,segments,only⟩
    have succeeded := ((tokenize_segments conditional "if é if").1 lexemes).mpr ⟨segments,only⟩
    cases failed.symm.trans succeeded
  obtain ⟨e,lexemes,c,failed',-,-,segments,stuck,-⟩ := (tokenize_segments conditional "if é if").2.1 unsegmented
  obtain rfl := Except.error.inj (failed.symm.trans failed')
  exact ⟨tokenized,(((tokenize_segments conditional "fi if ").1 _).mp tokenized).1,
    (tokenize_segments conditional "fi if ").2.2 _ tokenized,unsegmented,failed,lexemes,c,segments,stuck⟩

end Grammar

end Packrat
