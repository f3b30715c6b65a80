/-!
# Faults of the smart-card service

The service that owns the readers refuses a call with one of a fixed set of faults.  Each has a short name,
used in call logs, and a text for people.  Three of them say that there is no card to talk to.
-/

namespace SectorCard

/-- Why the smart-card service refused a call. -/
inductive ServiceFault where
  | internalError
  | cancelled
  | invalidHandle
  | invalidParameter
  | invalidTarget
  | noMemory
  | waitedTooLong
  | insufficientBuffer
  | unknownReader
  | timeout
  | sharingViolation
  | noSmartcard
  | unknownCard
  | cantDispose
  | protoMismatch
  | notReady
  | invalidValue
  | systemCancelled
  | commError
  | unknownError
  | invalidAtr
  | notTransacted
  | readerUnavailable
  | shutdown
  | pciTooSmall
  | readerUnsupported
  | duplicateReader
  | cardUnsupported
  | noService
  | serviceStopped
  | iccInstallation
  | iccCreateorder
  | unsupportedFeature
  | dirNotFound
  | fileNotFound
  | noDir
  | noFile
  | noAccess
  | writeTooMany
  | badSeek
  | invalidChv
  | unknownResMng
  | noSuchCertificate
  | certificateUnavailable
  | noReadersAvailable
  | commDataLost
  | noKeyContainer
  | serverTooBusy
  | unsupportedCard
  | unresponsiveCard
  | unpoweredCard
  | resetCard
  | removedCard
  | securityViolation
  | wrongChv
  | chvBlocked
  | eof
  | cancelledByUser
  | cardNotAuthenticated
  | cacheItemNotFound
  | cacheItemStale
  | cacheItemTooBig
  deriving DecidableEq, Repr

namespace ServiceFault

/-- The short name of a fault. -/
def name : ServiceFault → String
  | .internalError => "InternalError"
  | .cancelled => "Cancelled"
  | .invalidHandle => "InvalidHandle"
  | .invalidParameter => "InvalidParameter"
  | .invalidTarget => "InvalidTarget"
  | .noMemory => "NoMemory"
  | .waitedTooLong => "WaitedTooLong"
  | .insufficientBuffer => "InsufficientBuffer"
  | .unknownReader => "UnknownReader"
  | .timeout => "Timeout"
  | .sharingViolation => "SharingViolation"
  | .noSmartcard => "NoSmartcard"
  | .unknownCard => "UnknownCard"
  | .cantDispose => "CantDispose"
  | .protoMismatch => "ProtoMismatch"
  | .notReady => "NotReady"
  | .invalidValue => "InvalidValue"
  | .systemCancelled => "SystemCancelled"
  | .commError => "CommError"
  | .unknownError => "UnknownError"
  | .invalidAtr => "InvalidAtr"
  | .notTransacted => "NotTransacted"
  | .readerUnavailable => "ReaderUnavailable"
  | .shutdown => "Shutdown"
  | .pciTooSmall => "PciTooSmall"
  | .readerUnsupported => "ReaderUnsupported"
  | .duplicateReader => "DuplicateReader"
  | .cardUnsupported => "CardUnsupported"
  | .noService => "NoService"
  | .serviceStopped => "ServiceStopped"
  | .iccInstallation => "IccInstallation"
  | .iccCreateorder => "IccCreateorder"
  | .unsupportedFeature => "UnsupportedFeature"
  | .dirNotFound => "DirNotFound"
  | .fileNotFound => "FileNotFound"
  | .noDir => "NoDir"
  | .noFile => "NoFile"
  | .noAccess => "NoAccess"
  | .writeTooMany => "WriteTooMany"
  | .badSeek => "BadSeek"
  | .invalidChv => "InvalidChv"
  | .unknownResMng => "UnknownResMng"
  | .noSuchCertificate => "NoSuchCertificate"
  | .certificateUnavailable => "CertificateUnavailable"
  | .noReadersAvailable => "NoReadersAvailable"
  | .commDataLost => "CommDataLost"
  | .noKeyContainer => "NoKeyContainer"
  | .serverTooBusy => "ServerTooBusy"
  | .unsupportedCard => "UnsupportedCard"
  | .unresponsiveCard => "UnresponsiveCard"
  | .unpoweredCard => "UnpoweredCard"
  | .resetCard => "ResetCard"
  | .removedCard => "RemovedCard"
  | .securityViolation => "SecurityViolation"
  | .wrongChv => "WrongChv"
  | .chvBlocked => "ChvBlocked"
  | .eof => "Eof"
  | .cancelledByUser => "CancelledByUser"
  | .cardNotAuthenticated => "CardNotAuthenticated"
  | .cacheItemNotFound => "CacheItemNotFound"
  | .cacheItemStale => "CacheItemStale"
  | .cacheItemTooBig => "CacheItemTooBig"

/-- The text that explains a fault. -/
def text : ServiceFault → String
  | .internalError =>
    "An internal consistency check failed"
  | .cancelled =>
    "The action was cancelled by an SCardCancel request"
  | .invalidHandle =>
    "The supplied handle was invalid"
  | .invalidParameter =>
    "One or more of the supplied parameters could not be properly interpreted"
  | .invalidTarget =>
    "Registry startup information is missing or invalid"
  | .noMemory =>
    "Not enough memory available to complete this command"
  | .waitedTooLong =>
    "An internal consistency timer has expired"
  | .insufficientBuffer =>
    "The data buffer to receive returned data is too small for the returned data"
  | .unknownReader =>
    "The specified reader name is not recognized"
  | .timeout =>
    "The user-specified timeout value has expired"
  | .sharingViolation =>
    "The smart card cannot be accessed because of other connections outstanding"
  | .noSmartcard =>
    "The operation requires a smart card, but no smart card is currently in the device"
  | .unknownCard =>
    "The specified smart card name is not recognized"
  | .cantDispose =>
    "The system could not dispose of the media in the requested manner"
  | .protoMismatch =>
    "The requested protocols are incompatible with the protocol currently in use with the smart card"
  | .notReady =>
    "The reader or smart card is not ready to accept commands"
  | .invalidValue =>
    "One or more of the supplied parameters values could not be properly interpreted"
  | .systemCancelled =>
    "The action was cancelled by the system, presumably to log off or shut down"
  | .commError =>
    "An internal communications error has been detected"
  | .unknownError =>
    "An internal error has been detected, but the source is unknown"
  | .invalidAtr =>
    "An ATR obtained from the registry is not a valid ATR string"
  | .notTransacted =>
    "An attempt was made to end a non-existent transaction"
  | .readerUnavailable =>
    "The specified reader is not currently available for use"
  | .shutdown =>
    "The operation has been aborted to allow the server application to exit"
  | .pciTooSmall =>
    "The PCI Receive buffer was too small"
  | .readerUnsupported =>
    "The reader driver does not meet minimal requirements for support"
  | .duplicateReader =>
    "The reader driver did not produce a unique reader name"
  | .cardUnsupported =>
    "The smart card does not meet minimal requirements for support"
  | .noService =>
    "The Smart card resource manager is not running"
  | .serviceStopped =>
    "The Smart card resource manager has shut down"
  | .iccInstallation =>
    "No primary provider can be found for the smart card"
  | .iccCreateorder =>
    "The requested order of object creation is not supported"
  | .unsupportedFeature =>
    "This smart card does not support the requested feature"
  | .dirNotFound =>
    "The identified directory does not exist in the smart card"
  | .fileNotFound =>
    "The identified file does not exist in the smart card"
  | .noDir =>
    "The supplied path does not represent a smart card directory"
  | .noFile =>
    "The supplied path does not represent a smart card file"
  | .noAccess =>
    "Access is denied to this file"
  | .writeTooMany =>
    "The smart card does not have enough memory to store the information"
  | .badSeek =>
    "There was an error trying to set the smart card file object pointer"
  | .invalidChv =>
    "The supplied PIN is incorrect"
  | .unknownResMng =>
    "An unrecognized error code was returned from a layered component"
  | .noSuchCertificate =>
    "The requested certificate does not exist"
  | .certificateUnavailable =>
    "The requested certificate could not be obtained"
  | .noReadersAvailable =>
    "Cannot find a smart card reader"
  | .commDataLost =>
    "A communications error with the smart card has been detected. Retry the operation"
  | .noKeyContainer =>
    "The requested key container does not exist on the smart card"
  | .serverTooBusy =>
    "The smart card resource manager is too busy to complete this operation"
  | .unsupportedCard =>
    "The reader cannot communicate with the card, due to ATR string configuration conflicts"
  | .unresponsiveCard =>
    "The smart card is not responding to a reset"
  | .unpoweredCard =>
    "Power has been removed from the smart card, so that further communication is not possible"
  | .resetCard =>
    "The smart card has been reset, so any shared state information is invalid"
  | .removedCard =>
    "The smart card has been removed, so further communication is not possible"
  | .securityViolation =>
    "Access was denied because of a security violation"
  | .wrongChv =>
    "The card cannot be accessed because the wrong PIN was presented"
  | .chvBlocked =>
    "The card cannot be accessed because the maximum number of PIN entry attempts has been reached"
  | .eof =>
    "The end of the smart card file has been reached"
  | .cancelledByUser =>
    "The user pressed \"Cancel\" on a Smart Card Selection Dialog"
  | .cardNotAuthenticated =>
    "No PIN was presented to the smart card"
  | .cacheItemNotFound =>
    "The requested item could not be found in the cache"
  | .cacheItemStale =>
    "The requested cache item is too old and was deleted from the cache"
  | .cacheItemTooBig =>
    "The new cache item exceeds the maximum per-item size defined for the cache"

/-- Every fault, in the order of the service's list. -/
def every : List ServiceFault :=
  [.internalError, .cancelled, .invalidHandle, .invalidParameter, .invalidTarget,
   .noMemory, .waitedTooLong, .insufficientBuffer, .unknownReader, .timeout,
   .sharingViolation, .noSmartcard, .unknownCard, .cantDispose, .protoMismatch,
   .notReady, .invalidValue, .systemCancelled, .commError, .unknownError,
   .invalidAtr, .notTransacted, .readerUnavailable, .shutdown, .pciTooSmall,
   .readerUnsupported, .duplicateReader, .cardUnsupported, .noService, .serviceStopped,
   .iccInstallation, .iccCreateorder, .unsupportedFeature, .dirNotFound, .fileNotFound,
   .noDir, .noFile, .noAccess, .writeTooMany, .badSeek,
   .invalidChv, .unknownResMng, .noSuchCertificate, .certificateUnavailable, .noReadersAvailable,
   .commDataLost, .noKeyContainer, .serverTooBusy, .unsupportedCard, .unresponsiveCard,
   .unpoweredCard, .resetCard, .removedCard, .securityViolation, .wrongChv,
   .chvBlocked, .eof, .cancelledByUser, .cardNotAuthenticated, .cacheItemNotFound,
   .cacheItemStale, .cacheItemTooBig]

/-- The fault with a given name. -/
def ofName? (name : String) : Option ServiceFault :=
  every.find? fun f => f.name == name

/-- Whether the fault says that there is no card to talk to. -/
def meansNoCard : ServiceFault → Bool
  | .noSmartcard | .removedCard | .resetCard => true
  | _ => false

end ServiceFault
end SectorCard
