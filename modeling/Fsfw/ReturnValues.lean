import Mathlib

/-!
# Return values

A return value is `ok`, `failed`, or a code made of the id of the class that defines it and
a number within the class.  The codes a class defines are collected in a namespace under the
name of the class.
-/

/-- The ids of the classes that define the return codes used here. -/
inductive ClassId where
  | operatingSystemAbstraction
  | objectManagerIF
  | deviceHandlerBase
  | powerSwitchIF
  | powerSwitcher
  | subsystemBase
  | subsystem
  | hasModesIF
  | commandMessage
  | assemblyBase
  | hasHealthIF
  | fifoClass
  | commandServiceBase
  | deviceHandlerIF
  | commandsActionsIF
  | hasActionsIF
  | deviceCommunicationIF
  | messageQueueIF
  | spacePacketParser
  | hasMemoryIF
  | ccsdsTimeHelperClass
  | memoryHelper
  | handlesFailuresIF
  | parameterWrapper
  | hasParametersIF
  | limitsIF
  | serializeIF
  | storageManagerIF
  | acceptsTelecommandsIF
  | ccsdsHandlerIF
  | dleEncoder
  | pusService11
  | fixedMap
  | fixedMultimap
  | cfdp
  | tmtcDistribution
  | packetDistribution
  | housekeepingManager
  | matchTree
  | eventManagerIF
  | pusIF
  | fixedSlotTaskIF
  | dataSetClass
  | asciiConverter
  deriving DecidableEq, Repr

/-- The number of a class. -/
def ClassId.toUInt8 : ClassId → UInt8
  | .operatingSystemAbstraction => 1
  | .objectManagerIF => 2
  | .deviceHandlerBase => 3
  | .powerSwitchIF => 5
  | .powerSwitcher => 48
  | .subsystemBase => 11
  | .subsystem => 13
  | .hasModesIF => 14
  | .commandMessage => 15
  | .assemblyBase => 18
  | .hasHealthIF => 23
  | .fifoClass => 24
  | .commandServiceBase => 32
  | .deviceHandlerIF => 39
  | .commandsActionsIF => 50
  | .hasActionsIF => 51
  | .deviceCommunicationIF => 52
  | .messageQueueIF => 58
  | .spacePacketParser => 76
  | .hasMemoryIF => 6
  | .ccsdsTimeHelperClass => 16
  | .memoryHelper => 19
  | .handlesFailuresIF => 38
  | .parameterWrapper => 45
  | .hasParametersIF => 46
  | .limitsIF => 49
  | .serializeIF => 20
  | .storageManagerIF => 40
  | .acceptsTelecommandsIF => 29
  | .ccsdsHandlerIF => 44
  | .dleEncoder => 63
  | .pusService11 => 66
  | .fixedMap => 21
  | .fixedMultimap => 22
  | .cfdp => 54
  | .tmtcDistribution => 27
  | .packetDistribution => 28
  | .housekeepingManager => 62
  | .matchTree => 36
  | .eventManagerIF => 37
  | .pusIF => 30
  | .fixedSlotTaskIF => 73
  | .dataSetClass => 8
  | .asciiConverter => 47

/-- Return values. -/
inductive ReturnValue where
  | ok
  | failed
  | makeCode (classId : ClassId) (number : UInt8)
  deriving DecidableEq, Repr

/-- The number of a return value. -/
def ReturnValue.toUInt16 : ReturnValue → UInt16
  | .ok => 0
  | .failed => 1
  | .makeCode classId number => (classId.toUInt8.toUInt16 <<< 8) + number.toUInt16

namespace ObjectManagerIF

abbrev notFound : ReturnValue := .makeCode .objectManagerIF 2
abbrev childInitFailed : ReturnValue := .makeCode .objectManagerIF 3
abbrev internalErrReporterUninit : ReturnValue := .makeCode .objectManagerIF 4

end ObjectManagerIF

namespace SerializeIF

abbrev bufferTooShort : ReturnValue := .makeCode .serializeIF 1
abbrev streamTooShort : ReturnValue := .makeCode .serializeIF 2
abbrev tooManyElements : ReturnValue := .makeCode .serializeIF 3

end SerializeIF

namespace PusIF

abbrev invalidPusVersion : ReturnValue := .makeCode .pusIF 0
abbrev invalidCrc16 : ReturnValue := .makeCode .pusIF 1

end PusIF

namespace Containers

abbrev keyAlreadyExists : ReturnValue := .makeCode .fixedMap 0x01
abbrev mapFull : ReturnValue := .makeCode .fixedMap 0x02
abbrev keyDoesNotExist : ReturnValue := .makeCode .fixedMap 0x03

end Containers

namespace FixedOrderedMultimap

abbrev mapFull : ReturnValue := .makeCode .fixedMultimap 0x01
abbrev keyDoesNotExist : ReturnValue := .makeCode .fixedMultimap 0x02

end FixedOrderedMultimap

namespace Cfdp

abbrev invalidTlvType : ReturnValue := .makeCode .cfdp 1
abbrev invalidDirectiveField : ReturnValue := .makeCode .cfdp 2
abbrev invalidPduDatafieldLen : ReturnValue := .makeCode .cfdp 3
abbrev invalidAckDirectiveFields : ReturnValue := .makeCode .cfdp 4
abbrev metadataCantParseOptions : ReturnValue := .makeCode .cfdp 5
abbrev nakCantParseOptions : ReturnValue := .makeCode .cfdp 6
abbrev finishedCantParseFsResponses : ReturnValue := .makeCode .cfdp 7
abbrev filestoreRequiresSecondFile : ReturnValue := .makeCode .cfdp 8
abbrev filestoreResponseCantParseFsMessage : ReturnValue := .makeCode .cfdp 9

end Cfdp

namespace StorageManagerIF

abbrev dataTooLarge : ReturnValue := .makeCode .storageManagerIF 1
abbrev dataStorageFull : ReturnValue := .makeCode .storageManagerIF 2
abbrev illegalStorageId : ReturnValue := .makeCode .storageManagerIF 3
abbrev dataDoesNotExist : ReturnValue := .makeCode .storageManagerIF 4
abbrev illegalAddress : ReturnValue := .makeCode .storageManagerIF 5
abbrev poolTooLarge : ReturnValue := .makeCode .storageManagerIF 6

end StorageManagerIF

namespace CCSDSReturnValuesIF

abbrev bcIsSetVrCommand : ReturnValue := .makeCode .ccsdsHandlerIF 0x01
abbrev bcIsUnlockCommand : ReturnValue := .makeCode .ccsdsHandlerIF 0x02
abbrev bcIllegalCommand : ReturnValue := .makeCode .ccsdsHandlerIF 0xB0
abbrev illegalFlagCombination : ReturnValue := .makeCode .ccsdsHandlerIF 0xD0
abbrev shorterThanHeader : ReturnValue := .makeCode .ccsdsHandlerIF 0xD1
abbrev tooShortBlockedPacket : ReturnValue := .makeCode .ccsdsHandlerIF 0xD2
abbrev tooShort : ReturnValue := .makeCode .ccsdsHandlerIF 0xE5
abbrev wrongTfVersion : ReturnValue := .makeCode .ccsdsHandlerIF 0xE6
abbrev wrongSpacecraftId : ReturnValue := .makeCode .ccsdsHandlerIF 0xE7
abbrev noValidFrameType : ReturnValue := .makeCode .ccsdsHandlerIF 0xE8
abbrev crcFailed : ReturnValue := .makeCode .ccsdsHandlerIF 0xE9
abbrev vcNotFound : ReturnValue := .makeCode .ccsdsHandlerIF 0xEA
abbrev contentTooLarge : ReturnValue := .makeCode .ccsdsHandlerIF 0xEC
abbrev residualData : ReturnValue := .makeCode .ccsdsHandlerIF 0xED
abbrev dataCorrupted : ReturnValue := .makeCode .ccsdsHandlerIF 0xEE
abbrev illegalSegmentationFlag : ReturnValue := .makeCode .ccsdsHandlerIF 0xEF
abbrev nsPositiveW : ReturnValue := .makeCode .ccsdsHandlerIF 0xF0
abbrev nsNegativeW : ReturnValue := .makeCode .ccsdsHandlerIF 0xF1
abbrev nsLockout : ReturnValue := .makeCode .ccsdsHandlerIF 0xF2
abbrev farmInLockout : ReturnValue := .makeCode .ccsdsHandlerIF 0xF3
abbrev farmInWait : ReturnValue := .makeCode .ccsdsHandlerIF 0xF4

end CCSDSReturnValuesIF

namespace DleEncoder

abbrev streamTooShort : ReturnValue := .makeCode .dleEncoder 0x01
abbrev decodingError : ReturnValue := .makeCode .dleEncoder 0x02

end DleEncoder

namespace DleParser

abbrev noPacketFound : ReturnValue := .makeCode .operatingSystemAbstraction 1
abbrev possiblePacketLoss : ReturnValue := .makeCode .operatingSystemAbstraction 2

end DleParser

namespace AcceptsTelecommandsIF

abbrev invalidSubservice : ReturnValue := .makeCode .acceptsTelecommandsIF 2
abbrev timeout : ReturnValue := .makeCode .acceptsTelecommandsIF 5

end AcceptsTelecommandsIF

namespace Service11TelecommandScheduling

abbrev invalidTypeTimeWindow : ReturnValue := .makeCode .pusService11 1
abbrev invalidTimeWindow : ReturnValue := .makeCode .pusService11 2
abbrev timeshiftingNotPossible : ReturnValue := .makeCode .pusService11 3
abbrev invalidRelativeTime : ReturnValue := .makeCode .pusService11 4
abbrev containedTcTooSmall : ReturnValue := .makeCode .pusService11 5
abbrev containedTcCrcMissmatch : ReturnValue := .makeCode .pusService11 6

end Service11TelecommandScheduling

namespace TmtcDistrib

abbrev invalidCcsdsVersion : ReturnValue := .makeCode .tmtcDistribution 1
abbrev invalidApid : ReturnValue := .makeCode .tmtcDistribution 2
abbrev invalidPacketType : ReturnValue := .makeCode .tmtcDistribution 3
abbrev invalidSecHeaderField : ReturnValue := .makeCode .tmtcDistribution 4
abbrev incompletePacket : ReturnValue := .makeCode .tmtcDistribution 7
abbrev invalidPusVersion : ReturnValue := .makeCode .tmtcDistribution 8
abbrev incorrectChecksum : ReturnValue := .makeCode .tmtcDistribution 9

end TmtcDistrib

namespace TcDistributorBase

abbrev packetLost : ReturnValue := .makeCode .packetDistribution 1
abbrev destinationNotFound : ReturnValue := .makeCode .packetDistribution 2
abbrev serviceIdAlreadyExists : ReturnValue := .makeCode .packetDistribution 3

end TcDistributorBase

namespace LocalDataPoolManager

abbrev queueOrDestinationInvalid : ReturnValue := .makeCode .housekeepingManager 0
abbrev wrongHkPacketType : ReturnValue := .makeCode .housekeepingManager 1
abbrev poolobjectNotFound : ReturnValue := .makeCode .housekeepingManager 4
abbrev datasetNotFound : ReturnValue := .makeCode .housekeepingManager 5

end LocalDataPoolManager

namespace MatchTree

abbrev tooGeneralRequest : ReturnValue := .makeCode .matchTree 2
abbrev noMatch : ReturnValue := .makeCode .matchTree 3
abbrev full : ReturnValue := .makeCode .matchTree 4
abbrev newNodeCreated : ReturnValue := .makeCode .matchTree 5

end MatchTree

namespace EventManagerIF

abbrev listenerNotFound : ReturnValue := .makeCode .eventManagerIF 1

end EventManagerIF

namespace SubsystemBase

abbrev childNotFound : ReturnValue := .makeCode .subsystemBase 0x01
abbrev tableContainsInvalidObjectId : ReturnValue := .makeCode .subsystemBase 0x05

end SubsystemBase

namespace Subsystem

abbrev tableDoesNotExist : ReturnValue := .makeCode .subsystem 0x03
abbrev sequenceDoesNotExist : ReturnValue := .makeCode .subsystem 0x05
abbrev fallbackSequenceDoesNotExist : ReturnValue := .makeCode .subsystem 0x07
abbrev noTargetTable : ReturnValue := .makeCode .subsystem 0x08
abbrev isFallbackSequenceCode : ReturnValue := .makeCode .subsystem 0x0B
abbrev accessDenied : ReturnValue := .makeCode .subsystem 0x0C
abbrev tableInUse : ReturnValue := .makeCode .subsystem 0x0E
abbrev targetTableNotReached : ReturnValue := .makeCode .subsystem 0xA1
abbrev tableCheckFailed : ReturnValue := .makeCode .subsystem 0xA2

end Subsystem

namespace HasModesIF

abbrev invalidMode : ReturnValue := .makeCode .hasModesIF 0x01
abbrev transNotAllowed : ReturnValue := .makeCode .hasModesIF 0x02
abbrev inTransition : ReturnValue := .makeCode .hasModesIF 0x03
abbrev invalidSubmode : ReturnValue := .makeCode .hasModesIF 0x04

end HasModesIF

namespace CommandMessageIF

abbrev unknownCommand : ReturnValue := .makeCode .commandMessage 1

end CommandMessageIF

namespace AssemblyBase

abbrev needSecondStep : ReturnValue := .makeCode .assemblyBase 0x01
abbrev needToReconfigure : ReturnValue := .makeCode .assemblyBase 0x02
abbrev needToChangeHealth : ReturnValue := .makeCode .assemblyBase 0x05

end AssemblyBase

namespace HasHealthIF

abbrev objectNotHealthy : ReturnValue := .makeCode .hasHealthIF 1

end HasHealthIF

namespace FIFOBase

abbrev full : ReturnValue := .makeCode .fifoClass 1
abbrev empty : ReturnValue := .makeCode .fifoClass 2

end FIFOBase

namespace CommandingServiceBase

abbrev executionComplete : ReturnValue := .makeCode .commandServiceBase 1
abbrev noStepMessage : ReturnValue := .makeCode .commandServiceBase 2
abbrev objectBusy : ReturnValue := .makeCode .commandServiceBase 3
abbrev busy : ReturnValue := .makeCode .commandServiceBase 4
abbrev invalidTc : ReturnValue := .makeCode .commandServiceBase 5
abbrev invalidObject : ReturnValue := .makeCode .commandServiceBase 6
abbrev invalidReply : ReturnValue := .makeCode .commandServiceBase 7

end CommandingServiceBase

namespace PowerSwitchIF

abbrev switchOff : ReturnValue := .makeCode .powerSwitchIF 0
abbrev switchOn : ReturnValue := .makeCode .powerSwitchIF 1

end PowerSwitchIF

namespace PowerSwitcher

abbrev inPowerTransition : ReturnValue := .makeCode .powerSwitcher 1
abbrev switchStateMismatch : ReturnValue := .makeCode .powerSwitcher 2

end PowerSwitcher

namespace DeviceHandlerIF

abbrev commandNotSupported : ReturnValue := .makeCode .deviceHandlerIF 0xA1
abbrev commandAlreadySent : ReturnValue := .makeCode .deviceHandlerIF 0xA2
abbrev commandWasNotSent : ReturnValue := .makeCode .deviceHandlerIF 0xA3
abbrev wrongModeForCommand : ReturnValue := .makeCode .deviceHandlerIF 0xA5
abbrev timeout : ReturnValue := .makeCode .deviceHandlerIF 0xA6
abbrev busy : ReturnValue := .makeCode .deviceHandlerIF 0xA7
abbrev noReplyExpected : ReturnValue := .makeCode .deviceHandlerIF 0xA8

end DeviceHandlerIF

namespace DeviceHandlerBase

abbrev aperiodicReply : ReturnValue := .makeCode .deviceHandlerBase 0xB0
abbrev ignoreReplyData : ReturnValue := .makeCode .deviceHandlerBase 0xB1
abbrev ignoreFullPacket : ReturnValue := .makeCode .deviceHandlerBase 0xB2
abbrev nothingToSend : ReturnValue := .makeCode .deviceHandlerBase 0xC0
abbrev commandMapError : ReturnValue := .makeCode .deviceHandlerBase 0xC2
abbrev noSwitch : ReturnValue := .makeCode .deviceHandlerBase 0xD0
abbrev childTimeout : ReturnValue := .makeCode .deviceHandlerBase 0xE0
abbrev switchFailed : ReturnValue := .makeCode .deviceHandlerBase 0xE1

end DeviceHandlerBase

namespace CommandsActionsIF

abbrev objectHasNoFunctions : ReturnValue := .makeCode .commandsActionsIF 1
abbrev alreadyCommanding : ReturnValue := .makeCode .commandsActionsIF 2

end CommandsActionsIF

namespace HasActionsIF

abbrev isBusy : ReturnValue := .makeCode .hasActionsIF 1
abbrev executionFinished : ReturnValue := .makeCode .hasActionsIF 3
abbrev invalidActionId : ReturnValue := .makeCode .hasActionsIF 4

end HasActionsIF

namespace DeviceCommunicationIF

abbrev noReplyReceived : ReturnValue := .makeCode .deviceCommunicationIF 0x01

end DeviceCommunicationIF

namespace MessageQueueIF

abbrev empty : ReturnValue := .makeCode .messageQueueIF 1
abbrev noReplyPartner : ReturnValue := .makeCode .messageQueueIF 3

end MessageQueueIF

namespace SpacePacketParser

abbrev noPacketFound : ReturnValue := .makeCode .spacePacketParser 0x00
abbrev splitPacket : ReturnValue := .makeCode .spacePacketParser 0x01

end SpacePacketParser

namespace HasMemoryIF

abbrev doItMyself : ReturnValue := .makeCode .hasMemoryIF 1
abbrev pointsToVariable : ReturnValue := .makeCode .hasMemoryIF 2
abbrev pointsToMemory : ReturnValue := .makeCode .hasMemoryIF 3
abbrev activityCompleted : ReturnValue := .makeCode .hasMemoryIF 4
abbrev dumpNotSupported : ReturnValue := .makeCode .hasMemoryIF 0xA0

end HasMemoryIF

namespace MemoryHelper

abbrev unknownCmd : ReturnValue := .makeCode .memoryHelper 0xE0
abbrev stateMismatch : ReturnValue := .makeCode .memoryHelper 0xE3

end MemoryHelper

namespace CCSDSTime

abbrev unsupportedTimeFormat : ReturnValue := .makeCode .ccsdsTimeHelperClass 0
abbrev notEnoughInformationForTargetFormat : ReturnValue := .makeCode .ccsdsTimeHelperClass 1
abbrev lengthMismatch : ReturnValue := .makeCode .ccsdsTimeHelperClass 2
abbrev invalidTimeFormat : ReturnValue := .makeCode .ccsdsTimeHelperClass 3
abbrev invalidDayOfYear : ReturnValue := .makeCode .ccsdsTimeHelperClass 4
abbrev timeDoesNotFitFormat : ReturnValue := .makeCode .ccsdsTimeHelperClass 5

end CCSDSTime

namespace ConfirmsFailuresIF

abbrev yourFault : ReturnValue := .makeCode .handlesFailuresIF 0
abbrev myFault : ReturnValue := .makeCode .handlesFailuresIF 1

end ConfirmsFailuresIF

namespace ParameterWrapper

abbrev unknownDatatype : ReturnValue := .makeCode .parameterWrapper 0x01
abbrev datatypeMissmatch : ReturnValue := .makeCode .parameterWrapper 0x02
abbrev readonly : ReturnValue := .makeCode .parameterWrapper 0x03
abbrev tooBig : ReturnValue := .makeCode .parameterWrapper 0x04
abbrev sourceNotSet : ReturnValue := .makeCode .parameterWrapper 0x05
abbrev outOfBounds : ReturnValue := .makeCode .parameterWrapper 0x06
abbrev notSet : ReturnValue := .makeCode .parameterWrapper 0x07
abbrev columnOrRowsZero : ReturnValue := .makeCode .parameterWrapper 0x08

end ParameterWrapper

namespace HasParametersIF

abbrev invalidIdentifierId : ReturnValue := .makeCode .hasParametersIF 0x01
abbrev invalidDomainId : ReturnValue := .makeCode .hasParametersIF 0x02

end HasParametersIF

namespace MonitoringIF

abbrev unchecked : ReturnValue := .makeCode .limitsIF 1
abbrev invalid : ReturnValue := .makeCode .limitsIF 2
abbrev unselected : ReturnValue := .makeCode .limitsIF 3
abbrev invalidSize : ReturnValue := .makeCode .limitsIF 0xE0

end MonitoringIF

namespace TcpTmTcServer

abbrev connBroken : ReturnValue := .makeCode .operatingSystemAbstraction 0

end TcpTmTcServer

namespace FixedTimeslotTaskIF

abbrev slotListEmpty : ReturnValue := .makeCode .fixedSlotTaskIF 0

end FixedTimeslotTaskIF

namespace DataSetIF

abbrev invalidParameterDefinition : ReturnValue := .makeCode .dataSetClass 1
abbrev setWasAlreadyRead : ReturnValue := .makeCode .dataSetClass 2
abbrev commitingWithoutReading : ReturnValue := .makeCode .dataSetClass 3
abbrev dataSetUninitialised : ReturnValue := .makeCode .dataSetClass 4
abbrev dataSetFull : ReturnValue := .makeCode .dataSetClass 5
abbrev poolVarNull : ReturnValue := .makeCode .dataSetClass 6

end DataSetIF

namespace AsciiConverter

abbrev bufferTooSmall : ReturnValue := .makeCode .asciiConverter 0x3

end AsciiConverter
