/-!
# Schemas of any size

A schema with a given number of transactions.  Each of them extends a common
transaction and inlines a body with a counted array, a block of bytes with its
size, and two members that are present under conditions.
-/

namespace WireLayout.Sample

/-- The types that all transactions use. -/
def commonText : String :=
  "
- name: Amount
  type: byte
  size: 8
- name: MosaicId
  type: byte
  size: 8
- name: EntityType
  type: enum
  size: 2
  values:
    - name: RESERVED
      value: 0
- name: Kind
  type: enum
  size: 1
  values:
    - name: ADDRESS
      value: 0
    - name: MOSAIC
      value: 1
    - name: NONE
      value: 2
- name: SizePrefixedEntity
  type: struct
  layout:
    - name: size
      type: byte
      size: 4
- name: EntityBody
  type: struct
  layout:
    - name: signerPublicKey
      type: byte
      size: 32
    - name: version
      type: byte
      size: 1
- name: Transaction
  type: struct
  layout:
    - disposition: inline
      type: SizePrefixedEntity
    - disposition: inline
      type: EntityBody
    - name: type
      type: EntityType
    - name: fee
      type: Amount
- name: Mosaic
  type: struct
  layout:
    - name: mosaicId
      type: MosaicId
    - name: amount
      type: Amount
"

/-- The two composites of the transaction of a number. -/
def transactionText (number : Nat) : String :=
  let label := toString number
  let code := toString (16384 + number)
  "- name: Sample" ++ label ++ "TransactionBody
  type: struct
  layout:
    - name: kind
      type: Kind
    - name: address
      type: byte
      size: 24
      condition: kind
      condition_value: ADDRESS
    - name: mosaicId
      type: MosaicId
      condition: kind
      condition_value: MOSAIC
    - name: messageSize
      type: byte
      size: 2
    - name: mosaicsCount
      type: byte
      size: 1
    - name: mosaics
      type: Mosaic
      size: mosaicsCount
    - name: message
      type: byte
      size: messageSize
- name: Sample" ++ label ++ "Transaction
  type: struct
  layout:
    - name: TRANSACTION_TYPE
      type: EntityType
      disposition: const
      value: " ++ code ++ "
    - disposition: inline
      type: Transaction
    - disposition: inline
      type: Sample" ++ label ++ "TransactionBody
"

/-- The text of a schema with a number of transactions. -/
def transactionSchema (count : Nat) : String :=
  commonText ++ String.join ((List.range count).map transactionText)

end WireLayout.Sample
