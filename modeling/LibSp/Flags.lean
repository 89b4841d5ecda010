/-!
# Flag words

Setting and clearing bits of a machine word, read through a field mask.
-/

set_option autoImplicit false

namespace LibSp.Flags

variable {width : Nat}

def setBits (word mask : BitVec width) : BitVec width := word ||| mask

def clearBits (word mask : BitVec width) : BitVec width := word &&& ~~~mask

theorem setBits_and (word mask field : BitVec width) :
    setBits word mask &&& field = (word &&& field) ||| (mask &&& field) :=
  BitVec.and_or_distrib_right

theorem clearBits_and (word mask field : BitVec width) :
    clearBits word mask &&& field = word &&& (~~~mask &&& field) :=
  BitVec.and_assoc ..

theorem setBits_and_of_disjoint {word mask field : BitVec width} (disjoint : mask &&& field = 0) :
    setBits word mask &&& field = word &&& field := by
  rw [setBits_and, disjoint]
  simp

theorem clearBits_and_of_disjoint {word mask field : BitVec width}
    (disjoint : ~~~mask &&& field = field) : clearBits word mask &&& field = word &&& field := by
  rw [clearBits_and, disjoint]

theorem not_and_of_disjoint {mask field : BitVec width} (disjoint : mask &&& field = 0) :
    ~~~mask &&& field = field := by
  have whole : (mask ||| ~~~mask) &&& field = field := by
    rw [BitVec.or_not_self, BitVec.allOnes_and]
  rw [BitVec.and_or_distrib_right, disjoint] at whole
  simpa using whole

theorem setBits_and_self (word flag : BitVec width) : setBits word flag &&& flag = flag := by
  rw [setBits, BitVec.and_comm, BitVec.or_comm]
  ext index bound
  simp only [BitVec.getElem_and, BitVec.getElem_or]
  cases flag[index] <;> rfl

theorem clearBits_and_self (word flag : BitVec width) : clearBits word flag &&& flag = 0 := by
  rw [clearBits, BitVec.and_assoc]
  ext index bound
  simp

/-- Writing a value that lies inside a field. -/
theorem setBits_clearBits_and {word field value : BitVec width} (inside : value &&& field = value) :
    setBits (clearBits word field) value &&& field = value := by
  rw [setBits_and, clearBits_and_self, inside]
  simp

/-- Two words that agree outside some bits agree on every field outside them. -/
theorem and_eq_of_agree {first second bits field : BitVec width}
    (agree : first &&& ~~~bits = second &&& ~~~bits) (outside : ~~~bits &&& field = field) :
    first &&& field = second &&& field := by
  rw [← outside, ← BitVec.and_assoc, agree, BitVec.and_assoc]

end LibSp.Flags
