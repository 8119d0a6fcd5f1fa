/-!
# A sample schema

Transactions that transfer mosaics, register namespaces and link aliases, with
the types they are made of.  It is compiled where no other schema is given.
-/

namespace WireLayout.Sample

/-- The text of the sample schema. -/
def transferText : String :=
  "- name: Amount
  type: byte
  size: 8
  comments: A quantity of mosaics in absolute units
- name: Timestamp
  type: byte
  size: 8
- name: MosaicId
  type: byte
  size: 8
- name: UnresolvedMosaicId
  type: byte
  size: 8
- name: UnresolvedAddress
  type: byte
  size: 24
- name: Hash256
  type: byte
  size: 32
- name: EntityType
  type: enum
  size: 2
  values:
    - name: RESERVED
      value: 0
- name: NetworkType
  type: enum
  size: 1
  values:
    - name: MAIN_NET
      value: 104
    - name: TEST_NET
      value: 152
- name: LinkAction
  type: enum
  size: 1
  values:
    - name: UNLINK
      value: 0
    - name: LINK
      value: 1
- name: AliasAction
  type: enum
  size: 1
  values:
    - name: UNLINK
      value: 0
    - name: LINK
      value: 1
- name: NamespaceRegistrationType
  type: enum
  size: 1
  values:
    - name: ROOT
      value: 0
      comments: root namespace
    - name: CHILD
      value: 1
      comments: child namespace
- name: SizePrefixedEntity
  type: struct
  layout:
    - name: size
      type: byte
      size: 4
- name: VerifiableEntity
  type: struct
  layout:
    - name: verifiableEntityHeader_Reserved1
      type: byte
      size: 4
    - name: signature
      type: byte
      size: 64
- name: EntityBody
  type: struct
  layout:
    - name: signerPublicKey
      type: byte
      size: 32
    - name: entityBody_Reserved1
      type: byte
      size: 4
    - name: version
      type: byte
      size: 1
    - name: network
      type: NetworkType
- name: Transaction
  type: struct
  comments: binary layout for a transaction
  layout:
    - disposition: inline
      type: SizePrefixedEntity
    - disposition: inline
      type: VerifiableEntity
    - disposition: inline
      type: EntityBody
    - name: type
      type: EntityType
    - name: fee
      type: Amount
    - name: deadline
      type: Timestamp
- name: UnresolvedMosaic
  type: struct
  layout:
    - name: mosaicId
      type: UnresolvedMosaicId
    - name: amount
      type: Amount
- name: TransferTransactionBody
  type: struct
  layout:
    - name: recipientAddress
      type: UnresolvedAddress
    - name: messageSize
      type: byte
      size: 2
    - name: mosaicsCount
      type: byte
      size: 1
    - name: transferTransactionBody_Reserved1
      type: byte
      size: 4
    - name: mosaics
      type: UnresolvedMosaic
      size: mosaicsCount
      sort_key: mosaicId
    - name: message
      type: byte
      size: messageSize
- name: TransferTransaction
  type: struct
  layout:
    - name: TRANSACTION_VERSION
      type: byte
      size: 1
      disposition: const
      value: 1
    - name: TRANSACTION_TYPE
      type: EntityType
      disposition: const
      value: 16724
    - disposition: inline
      type: Transaction
    - disposition: inline
      type: TransferTransactionBody
- name: NamespaceRegistrationTransactionBody
  type: struct
  layout:
    - name: duration
      type: byte
      size: 8
      condition: registrationType
      condition_value: ROOT
    - name: parentId
      type: byte
      size: 8
      condition: registrationType
      condition_value: CHILD
    - name: id
      type: byte
      size: 8
    - name: registrationType
      type: NamespaceRegistrationType
    - name: nameSize
      type: byte
      size: 1
    - name: name
      type: byte
      size: nameSize
- name: NamespaceRegistrationTransaction
  type: struct
  layout:
    - name: TRANSACTION_TYPE
      type: EntityType
      disposition: const
      value: 16718
    - disposition: inline
      type: Transaction
    - disposition: inline
      type: NamespaceRegistrationTransactionBody
- name: AddressAliasTransactionBody
  type: struct
  layout:
    - name: namespaceId
      type: byte
      size: 8
    - name: address
      type: UnresolvedAddress
    - name: aliasAction
      type: AliasAction
- name: AddressAliasTransaction
  type: struct
  layout:
    - name: TRANSACTION_TYPE
      type: EntityType
      disposition: const
      value: 16974
    - disposition: inline
      type: Transaction
    - disposition: inline
      type: AddressAliasTransactionBody
"

end WireLayout.Sample
