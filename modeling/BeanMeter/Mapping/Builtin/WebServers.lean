import BeanMeter.Mapping.Builtin.Rule

/-! # Web servers

Catalogs of servers for web applications. -/

namespace BeanMeter.Builtin

/-- Selectors, sessions and threads. -/
def jetty : Catalog := ⟨[
  rule "org.eclipse.jetty.io:context=*,type=managedselector,id=*" "jetty.select."
    [("context", .param "context"), ("id", .param "id")] [
    counter "selectCount" "count" (counted "operation") "The number of select calls"],
  rule "org.eclipse.jetty.server.session:context=*,type=sessionhandler,id=*" "jetty.session."
    [("resource", .param "context")] [
    counter "sessionsCreated" "count" (counted "session")
      "The number of sessions established in total",
    counter "sessionTimeTotal" "time.total" "s" "The total time sessions have been active",
    gauge "sessionTimeMax" "time.max" "s" "The maximum amount of time a session has been active"],
  rule "org.eclipse.jetty.util.thread:type=queuedthreadpool,id=*" "jetty.thread."
    [("id", .param "id")] [
    upDownCounter "busyThreads" "busy.count" (counted "thread")
      "The current number of busy threads",
    upDownCounter "idleThreads" "idle.count" (counted "thread")
      "The current number of idle threads",
    upDownCounter "queueSize" "queue.count" (counted "thread")
      "The current number of threads in the queue"]]⟩

/-- Sessions, requests and threads. -/
def tomcat : Catalog := ⟨[
  rule "Catalina:type=Manager,host=localhost,context=*" "tomcat." [("context", .param "context")] [
    upDownCounter "activeSessions" "sessions" (counted "session") "The number of active sessions"],
  rule "Catalina:type=GlobalRequestProcessor,name=*" "tomcat." [("name", .param "name")] [
    counter "errorCount" "errors" (counted "error") "The number of errors encountered",
    counter "requestCount" "request_count" (counted "request") "The total requests",
    gauge "maxTime" "max_time" "ms" "Maximum time to process a request",
    counter "processingTime" "processing_time" "ms" "The total processing time",
    counter "bytesReceived" "traffic.received" "By" "The number of bytes received",
    counter "bytesSent" "traffic.sent" "By" "The number of bytes transmitted"],
  rule "Catalina:type=ThreadPool,name=*" "tomcat.threads." [("name", .param "name")] [
    upDownCounter "currentThreadCount" "idle" (counted "thread") "The number of idle threads",
    upDownCounter "currentThreadsBusy" "busy" (counted "thread") "The number of busy threads"]]⟩

/-- Sessions, requests and data sources of deployments. -/
def wildfly : Catalog := ⟨[
  rule "jboss.as:deployment=*,subsystem=undertow" "wildfly.session."
    [("deployment", .param "deployment")] [
    counter "sessionsCreated" "count" (counted "session") "The number of sessions created",
    upDownCounter "activeSessions" "active" (counted "session") "The number of active sessions",
    counter "expiredSessions" "expired" (counted "session")
      "The number of sessions that have expired",
    counter "rejectedSessions" "rejected" (counted "session")
      "The number of sessions that have been rejected"],
  rule "jboss.as:subsystem=undertow,server=*,http-listener=*" "wildfly."
    [("server", .param "server"), ("listener", .param "http-listener")] [
    counter "requestCount" "request.count" (counted "request") "The number of requests served",
    counter "processingTime" "request.time" "ns" "The total amount of time spent on requests",
    counter "errorCount" "request.server_error" (counted "request")
      "The number of requests that have resulted in a 5xx response",
    counter "bytesSent" "network.io.sent" "By" "The number of bytes transmitted",
    counter "bytesReceived" "network.io.received" "By" "The number of bytes received"],
  rule "jboss.as:subsystem=datasources,data-source=*,statistics=pool"
    "wildfly.db.client.connection." [("data_source", .param "data-source")] [
    upDownCounter "ActiveCount" "count.active" (counted "connection")
      "The number of open jdbc connections in use",
    upDownCounter "IdleCount" "count.idle" (counted "connection")
      "The number of idle jdbc connections",
    counter "WaitCount" "wait.count" (counted "request")
      "The number of requests that had to wait to obtain a connection"]]⟩

end BeanMeter.Builtin
