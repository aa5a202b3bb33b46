/-!
# Known failure classes

The classes of failures a client meets: those of the running process, of its
network stack, and the client's own taxonomy rooted at `sdkError`.  Only the
taxonomy is asked about codes and flags; every class takes part in rules about
the class of a failure or of its cause.
-/

namespace Retry

/-- The failure classes known to every client. -/
inductive KnownClass where
  | baseException
  | exception
  | keyboardInterrupt
  | systemExit
  | generatorExit
  | arithmeticError
  | overflowError
  | zeroDivisionError
  | lookupError
  | keyError
  | indexError
  | valueError
  | unicodeError
  | typeError
  | runtimeError
  | recursionError
  | notImplementedError
  | attributeError
  | assertionError
  | stopIteration
  | eofError
  | memoryError
  | bufferError
  | importError
  | osError
  | blockingIoError
  | childProcessError
  | connectionError
  | brokenPipeError
  | connectionAbortedError
  | connectionRefusedError
  | connectionResetError
  | fileExistsError
  | fileNotFoundError
  | interruptedError
  | isADirectoryError
  | notADirectoryError
  | permissionError
  | processLookupError
  | timeoutError
  | httpError
  | requestError
  | transportError
  | timeoutException
  | connectTimeout
  | readTimeout
  | writeTimeout
  | poolTimeout
  | networkError
  | connectError
  | readError
  | writeError
  | closeError
  | protocolError
  | localProtocolError
  | remoteProtocolError
  | proxyError
  | unsupportedProtocol
  | decodingError
  | tooManyRedirects
  | httpStatusError
  | invalidUrl
  | cookieConflict
  | streamError
  | streamConsumed
  | sdkError
  | clientError
  | retryableError
  | attemptTimeoutError
  | serviceError
  | cancelledError
  | addressInfoError
  | hostError
  | sslError
  | sslCertificateError
  | unsupportedOperation
  | urlError
  | httpException
  | remoteDisconnected
  deriving DecidableEq

namespace KnownClass

/-- The name a class is shown by. -/
def name : KnownClass → String
  | baseException => "BaseException"
  | exception => "Exception"
  | keyboardInterrupt => "KeyboardInterrupt"
  | systemExit => "SystemExit"
  | generatorExit => "GeneratorExit"
  | arithmeticError => "ArithmeticError"
  | overflowError => "OverflowError"
  | zeroDivisionError => "ZeroDivisionError"
  | lookupError => "LookupError"
  | keyError => "KeyError"
  | indexError => "IndexError"
  | valueError => "ValueError"
  | unicodeError => "UnicodeError"
  | typeError => "TypeError"
  | runtimeError => "RuntimeError"
  | recursionError => "RecursionError"
  | notImplementedError => "NotImplementedError"
  | attributeError => "AttributeError"
  | assertionError => "AssertionError"
  | stopIteration => "StopIteration"
  | eofError => "EOFError"
  | memoryError => "MemoryError"
  | bufferError => "BufferError"
  | importError => "ImportError"
  | osError => "OSError"
  | blockingIoError => "BlockingIOError"
  | childProcessError => "ChildProcessError"
  | connectionError => "ConnectionError"
  | brokenPipeError => "BrokenPipeError"
  | connectionAbortedError => "ConnectionAbortedError"
  | connectionRefusedError => "ConnectionRefusedError"
  | connectionResetError => "ConnectionResetError"
  | fileExistsError => "FileExistsError"
  | fileNotFoundError => "FileNotFoundError"
  | interruptedError => "InterruptedError"
  | isADirectoryError => "IsADirectoryError"
  | notADirectoryError => "NotADirectoryError"
  | permissionError => "PermissionError"
  | processLookupError => "ProcessLookupError"
  | timeoutError => "TimeoutError"
  | httpError => "HTTPError"
  | requestError => "RequestError"
  | transportError => "TransportError"
  | timeoutException => "TimeoutException"
  | connectTimeout => "ConnectTimeout"
  | readTimeout => "ReadTimeout"
  | writeTimeout => "WriteTimeout"
  | poolTimeout => "PoolTimeout"
  | networkError => "NetworkError"
  | connectError => "ConnectError"
  | readError => "ReadError"
  | writeError => "WriteError"
  | closeError => "CloseError"
  | protocolError => "ProtocolError"
  | localProtocolError => "LocalProtocolError"
  | remoteProtocolError => "RemoteProtocolError"
  | proxyError => "ProxyError"
  | unsupportedProtocol => "UnsupportedProtocol"
  | decodingError => "DecodingError"
  | tooManyRedirects => "TooManyRedirects"
  | httpStatusError => "HTTPStatusError"
  | invalidUrl => "InvalidURL"
  | cookieConflict => "CookieConflict"
  | streamError => "StreamError"
  | streamConsumed => "StreamConsumed"
  | sdkError => "SdkError"
  | clientError => "SdkClientError"
  | retryableError => "RetryableError"
  | attemptTimeoutError => "ApiCallAttemptTimeoutError"
  | serviceError => "SdkServiceError"
  | cancelledError => "CancelledError"
  | addressInfoError => "gaierror"
  | hostError => "herror"
  | sslError => "SSLError"
  | sslCertificateError => "SSLCertVerificationError"
  | unsupportedOperation => "UnsupportedOperation"
  | urlError => "URLError"
  | httpException => "HTTPException"
  | remoteDisconnected => "RemoteDisconnected"

/-- The classes a class directly extends, the preferred one first. -/
def parents : KnownClass → List KnownClass
  | baseException => []
  | exception | keyboardInterrupt | systemExit | generatorExit => [baseException]
  | arithmeticError => [exception]
  | overflowError | zeroDivisionError => [arithmeticError]
  | lookupError => [exception]
  | keyError | indexError => [lookupError]
  | valueError => [exception]
  | unicodeError => [valueError]
  | typeError | runtimeError => [exception]
  | recursionError | notImplementedError => [runtimeError]
  | attributeError | assertionError | stopIteration | eofError | memoryError
  | bufferError | importError | osError => [exception]
  | blockingIoError | childProcessError | connectionError => [osError]
  | brokenPipeError | connectionAbortedError | connectionRefusedError
  | connectionResetError => [connectionError]
  | fileExistsError | fileNotFoundError | interruptedError | isADirectoryError
  | notADirectoryError | permissionError | processLookupError | timeoutError => [osError]
  | httpError => [exception]
  | requestError => [httpError]
  | transportError => [requestError]
  | timeoutException => [transportError]
  | connectTimeout | readTimeout | writeTimeout | poolTimeout => [timeoutException]
  | networkError => [transportError]
  | connectError | readError | writeError | closeError => [networkError]
  | protocolError => [transportError]
  | localProtocolError | remoteProtocolError => [protocolError]
  | proxyError | unsupportedProtocol => [transportError]
  | decodingError | tooManyRedirects => [requestError]
  | httpStatusError => [httpError]
  | invalidUrl | cookieConflict => [exception]
  | streamError => [runtimeError]
  | streamConsumed => [streamError]
  | sdkError => [exception]
  | clientError => [sdkError]
  | retryableError | attemptTimeoutError => [clientError]
  | serviceError => [sdkError]
  | cancelledError => [baseException]
  | addressInfoError | hostError | sslError => [osError]
  | sslCertificateError => [sslError, valueError]
  | unsupportedOperation => [osError, valueError]
  | urlError => [osError]
  | httpException => [exception]
  | remoteDisconnected => [connectionResetError, httpException]

/-- Whether the failures of a class have room for more than those of the classes it
extends; no class can extend two such classes unless one of them extends the other. -/
def hasOwnShape : KnownClass → Bool
  | baseException | osError | importError | stopIteration | systemExit | attributeError =>
    true
  | _ => false

/-- The classes outside the running process's own that the others of them extend. -/
def outerRoots : List KnownClass :=
  [httpError, invalidUrl, cookieConflict, streamError, sdkError, cancelledError,
    addressInfoError, hostError, sslCertificateError, unsupportedOperation, urlError,
    httpException, remoteDisconnected]

end KnownClass
end Retry
